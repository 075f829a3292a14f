import LiveSession.Text.Percent

/-!
# Percent encoding and what it keeps

An encoded text stands for the text that was encoded, unless the percent sign itself is kept, and a
text without a percent sign stands for itself. An encoded text holds only characters that are kept,
percent signs and digits.
-/

namespace LiveSession.Percent

variable {keep : Char → Bool} {c : Char} {cs text : List Char}

/-! ### Reading -/

theorem decode_cons_of_ne (plain : c ≠ '%') (cs : List Char) :
    decode (c :: cs) = String.utf8EncodeChar c ++ decode cs := by
  rw [decode.eq_def]
  split
  · contradiction
  · rename_i same
    cases same
    exact absurd rfl plain
  · rename_i same
    cases same
    rfl

theorem decode_of_not_mem (plain : '%' ∉ cs) : decode cs = cs.flatMap String.utf8EncodeChar := by
  induction cs with
  | nil => rfl
  | cons c cs ih =>
    rw [List.mem_cons, not_or] at plain
    rw [decode_cons_of_ne (Ne.symm plain.1), ih plain.2, List.flatMap_cons]

theorem decodeText?_of_decode (bytes : decode cs = text.flatMap String.utf8EncodeChar) :
    decodeText? cs = some text := by
  unfold decodeText?
  rw [bytes]
  have read : text.utf8Encode.utf8Decode? = some text.toArray := List.utf8Decode?_utf8Encode
  unfold List.utf8Encode at read
  rw [read]
  rfl

theorem decodeText?_of_not_mem (plain : '%' ∉ cs) : decodeText? cs = some cs :=
  decodeText?_of_decode (decode_of_not_mem plain)

/-! ### Reading what was written -/

theorem hexValue?_hexDigit : ∀ n < 16, hexValue? (hexDigit n) = some n := by decide

theorem decode_encodeByte (b : UInt8) (cs : List Char) :
    decode (encodeByte b ++ cs) = b :: decode cs := by
  have small : b.toNat < 256 := b.toNat_lt
  have high := hexValue?_hexDigit (b.toNat / 16) (by omega)
  have low := hexValue?_hexDigit (b.toNat % 16) (by omega)
  have whole : b.toNat / 16 * 16 + b.toNat % 16 = b.toNat := by omega
  show decode ('%' :: hexDigit (b.toNat / 16) :: hexDigit (b.toNat % 16) :: cs) = _
  simp only [decode, high, low, whole, UInt8.ofNat_toNat]

theorem decode_encodeBytes (bs : List UInt8) (cs : List Char) :
    decode (bs.flatMap encodeByte ++ cs) = bs ++ decode cs := by
  induction bs with
  | nil => rfl
  | cons b bs ih =>
    rw [List.flatMap_cons, List.append_assoc, decode_encodeByte, ih, List.cons_append]

theorem decode_encodeChar (percent : keep '%' = false) (c : Char) (cs : List Char) :
    decode (encodeChar keep c ++ cs) = String.utf8EncodeChar c ++ decode cs := by
  unfold encodeChar
  split
  · rename_i kept
    have plain : c ≠ '%' := by
      rintro rfl
      rw [percent] at kept
      cases kept
    exact decode_cons_of_ne plain cs
  · exact decode_encodeBytes _ cs

theorem decode_encode (percent : keep '%' = false) (text : List Char) :
    decode (encode keep text) = text.flatMap String.utf8EncodeChar := by
  induction text with
  | nil => rfl
  | cons c text ih =>
    have first := decode_encodeChar percent c (encode keep text)
    rw [List.flatMap_cons, ← ih, ← first]
    rfl

theorem decodeText?_encode (percent : keep '%' = false) (text : List Char) :
    decodeText? (encode keep text) = some text :=
  decodeText?_of_decode (decode_encode percent text)

/-! ### What a written text holds -/

theorem mem_encode_cases (member : c ∈ encode keep cs) :
    keep c = true ∨ c = '%' ∨ ∃ n < 16, c = hexDigit n := by
  obtain ⟨d, _, written⟩ := List.mem_flatMap.mp member
  unfold encodeChar at written
  split at written
  · rename_i kept
    exact .inl (List.mem_singleton.mp written ▸ kept)
  · obtain ⟨b, _, triple⟩ := List.mem_flatMap.mp written
    have small : b.toNat < 256 := b.toNat_lt
    simp only [encodeByte, List.mem_cons, List.not_mem_nil, or_false] at triple
    rcases triple with rfl | rfl | rfl
    · exact .inr (.inl rfl)
    · exact .inr (.inr ⟨_, by omega, rfl⟩)
    · exact .inr (.inr ⟨_, by omega, rfl⟩)

theorem mem_encode (percent : keep '%' = true) (digits : ∀ n < 16, keep (hexDigit n) = true)
    (member : c ∈ encode keep cs) : keep c = true := by
  rcases mem_encode_cases member with kept | rfl | ⟨n, small, rfl⟩
  · exact kept
  · exact percent
  · exact digits n small

end LiveSession.Percent
