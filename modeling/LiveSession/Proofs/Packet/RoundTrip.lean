import LiveSession.Packet.Engine
import LiveSession.Proofs.Json.Reading
import LiveSession.Proofs.Text.Digits
import LiveSession.Proofs.Text.Pieces

/-!
# Packets read again

A socket packet is written as parts with nothing between them, so its reader has to find where each
of them ends. `decode_encode_iff` says for which packets it does: the namespace has to be one that
can be told from what follows, and the data must not go on with the digits of the acknowledgement.
-/

namespace LiveSession

theorem PacketKind.ofDigit_digit (k : PacketKind) : ofDigit k.digit = .ok k := by
  cases k <;> rfl

namespace SocketPacket

variable {p : SocketPacket} {cs rest : List Char}

/-- The namespaces that a written packet can name: the root, or a slash and more without a comma. -/
def IsNamespace (ns : String) : Prop :=
  ns = rootNamespace ∨ (∃ rest, ns.toList = '/' :: rest) ∧ ',' ∉ ns.toList

/-- The parts of a packet can be told apart in its text. -/
structure IsPlain (p : SocketPacket) : Prop where
  ns : IsNamespace p.ns
  data : ∀ v ∈ p.data, ¬ Text.StartsWithDigit v.render.toList

/-! ### The text of a packet -/

def idText (p : SocketPacket) : List Char :=
  p.id.elim [] (Nat.toDigits 10)

def dataText (p : SocketPacket) : List Char :=
  p.data.elim [] fun v => v.render.toList

theorem toList_encode (p : SocketPacket) :
    p.encode.toList = p.kind.digit :: ((nsText p.ns).toList ++ (p.idText ++ p.dataText)) := by
  unfold encode idText dataText
  cases p.id <;> cases p.data <;> simp [Nat.toList_repr, Nat.toString_eq_repr]

theorem isDigit_of_mem_idText {c : Char} (member : c ∈ p.idText) : c.isDigit = true := by
  unfold idText at member
  cases id : p.id with
  | none =>
    rw [id] at member
    cases member
  | some n =>
    rw [id] at member
    exact Nat.isDigit_of_mem_toDigits (by decide) (by decide) member

/-! ### The parts found again -/

theorem decode_eq_ok_iff {text : String} :
    decode text = .ok p ↔ ∃ c rest afterNs afterId, text.toList = c :: rest ∧
      PacketKind.ofDigit c = .ok p.kind ∧ cutNamespace rest = (p.ns, afterNs) ∧
      cutId? afterNs = some (p.id, afterId) ∧ readData afterId = .ok p.data := by
  unfold decode
  constructor
  · intro decoded
    split at decoded
    · cases decoded
    · rename_i c rest chars
      cases kind : PacketKind.ofDigit c with
      | error e =>
        rw [kind] at decoded
        cases decoded
      | ok k =>
        simp only [kind, bind, Except.bind] at decoded
        split at decoded
        · cases decoded
        · rename_i id afterId number
          cases data : readData afterId with
          | error e =>
            rw [data] at decoded
            cases decoded
          | ok data' =>
            rw [data] at decoded
            cases decoded
            exact ⟨c, rest, _, afterId, chars, kind, rfl, number, data⟩
  · rintro ⟨c, rest, afterNs, afterId, chars, kind, ns, id, data⟩
    simp only [chars, kind, ns, id, data]
    rfl

theorem isNamespace_cutNamespace (cs : List Char) : IsNamespace (cutNamespace cs).1 := by
  unfold cutNamespace
  split
  · rename_i rest
    split
    · rename_i ns after found
      refine .inr ⟨?_, ?_⟩
      · unfold Text.cut? at found
        rw [if_neg (by decide)] at found
        obtain ⟨⟨ns', after'⟩, _, same⟩ := Option.map_eq_some_iff.mp found
        cases same
        exact ⟨ns', String.toList_ofList⟩
      · rw [String.toList_ofList]
        exact Text.not_mem_of_cut? found
    · rename_i missing
      refine .inr ⟨⟨rest, String.toList_ofList⟩, ?_⟩
      rw [String.toList_ofList]
      exact Text.cut?_eq_none.mp missing
  · exact .inl rfl

theorem cutNamespace_append {ns : String} (named : IsNamespace ns) (apart : ∀ tail, cs ≠ '/' :: tail) :
    cutNamespace ((nsText ns).toList ++ cs) = (ns, cs) := by
  unfold nsText
  by_cases root : ns = rootNamespace
  · rw [if_pos root, root, String.toList_empty, List.nil_append]
    unfold cutNamespace
    split
    · rename_i tail
      exact absurd rfl (apart tail)
    · rfl
  · obtain ⟨⟨tail, slash⟩, plain⟩ := named.resolve_left root
    have cut : Text.cut? ',' (ns.toList ++ ',' :: cs) = some (ns.toList, cs) :=
      Text.cut?_append plain
    have chars : (ns ++ ",").toList ++ cs = ns.toList ++ ',' :: cs := by simp
    rw [if_neg root, chars]
    rw [slash, List.cons_append] at cut ⊢
    simp only [cutNamespace, cut]
    rw [← slash, String.ofList_toList]

theorem cutId?_append (word : ∀ n ∈ p.id, n < idLimit) (apart : ¬ Text.StartsWithDigit cs) :
    cutId? (p.idText ++ cs) = some (p.id, cs) := by
  have digits : ∀ c ∈ p.idText, c.isDigit = true := fun c => isDigit_of_mem_idText
  have spanned : Document.spanDigits (p.idText ++ cs) =
      (p.idText.map (fun c => c.toNat - '0'.toNat), cs) := by
    unfold Document.spanDigits
    rw [List.takeWhile_append_of_pos digits, List.dropWhile_append_of_pos digits,
      Text.takeWhile_isDigit apart, Text.dropWhile_isDigit apart, List.append_nil]
  unfold cutId?
  rw [spanned]
  unfold idText
  cases id : p.id with
  | none => rfl
  | some n =>
    have value := Literal.digitsValue_toDigits n
    have within : n < idLimit := word n id
    rw [Option.elim_some]
    cases written : (Nat.toDigits 10 n).map fun c => c.toNat - '0'.toNat with
    | nil => exact absurd (List.map_eq_nil_iff.mp written) Nat.toDigits_ne_nil
    | cons d ds =>
      rw [written] at value
      simp only [value, if_pos within]

theorem rest_of_cutId? {id : Option Nat} (found : cutId? cs = some (id, rest)) :
    rest = cs.dropWhile Char.isDigit := by
  unfold cutId? at found
  split at found
  · rename_i spanned
    cases found
    have nothing : cs.takeWhile Char.isDigit = [] :=
      List.map_eq_nil_iff.mp (congrArg Prod.fst spanned)
    have whole : cs.takeWhile Char.isDigit ++ cs.dropWhile Char.isDigit = cs :=
      List.takeWhile_append_dropWhile
    rw [nothing, List.nil_append] at whole
    exact whole.symm
  · rename_i spanned
    dsimp only at found
    split at found
    · cases found
      exact (congrArg Prod.snd spanned).symm
    · cases found

/-! ### Data -/

theorem ne_slash_of_parse? {s : String} {v : Json} (reads : Json.parse? s = some v)
    (tail : List Char) : s.toList ≠ '/' :: tail := by
  intro slash
  have start : Document.skipGap s.toList = '/' :: tail := by
    rw [slash]
    exact List.dropWhile_cons_of_neg (by decide)
  have nothing : Document.readList? s.toList = none := by
    refine Document.readList?_eq_none start ?_
    rw [Document.value_of_not_opener (by decide), Document.magnitude?,
      Document.whole?_eq_none (by decide)]
  rw [Json.parse?, Document.read?, nothing] at reads
  cases reads

theorem readData_of_parse? {v : Json} (reads : Json.parse? (String.ofList cs) = some v) :
    readData cs = .ok (some v) := by
  cases cs with
  | nil =>
    have nothing : Document.readList? (String.ofList []).toList = none :=
      Document.readList?_eq_none rfl Document.value_nil
    rw [Json.parse?, Document.read?, nothing] at reads
    cases reads
  | cons c cs => simp only [readData, reads]

theorem readData_dropDigits {v w : Json} (reads : Json.parse? v.render = some v)
    (digit : Text.StartsWithDigit v.render.toList) :
    readData (v.render.toList.dropWhile Char.isDigit) ≠ .ok (some w) := by
  obtain ⟨c, cs, text, digit⟩ := digit
  obtain ⟨d, read, _⟩ := Option.bind_eq_some_iff.mp reads
  rw [Document.read?, text] at read
  have nothing := Document.readList?_dropDigits digit read
  rw [text]
  cases after : (c :: cs).dropWhile Char.isDigit with
  | nil => exact nofun
  | cons next rest =>
    rw [after] at nothing
    have refused : Json.parse? (String.ofList (next :: rest)) = none := by
      rw [Json.parse?, Document.read?, String.toList_ofList, nothing]
      rfl
    simp only [readData, refused]
    exact nofun

/-! ### Packets -/

theorem slashless (reads : ∀ v ∈ p.data, Json.parse? v.render = some v) (tail : List Char) :
    p.idText ++ p.dataText ≠ '/' :: tail := by
  intro slash
  cases number : p.idText with
  | nil =>
    rw [number, List.nil_append] at slash
    unfold dataText at slash
    cases data : p.data with
    | none =>
      rw [data] at slash
      cases slash
    | some v =>
      rw [data] at slash
      exact ne_slash_of_parse? (reads v data) tail slash
  | cons c cs =>
    have digit : c.isDigit = true := isDigit_of_mem_idText (number ▸ List.mem_cons_self)
    rw [number, List.cons_append] at slash
    rw [(List.cons.inj slash).1] at digit
    revert digit
    decide

theorem decode_of_isPlain (word : ∀ n ∈ p.id, n < idLimit)
    (reads : ∀ v ∈ p.data, Json.parse? v.render = some v) (plain : p.IsPlain) :
    decode p.encode = .ok p := by
  have apart : ¬ Text.StartsWithDigit p.dataText ∧ readData p.dataText = .ok p.data := by
    unfold dataText
    cases data : p.data with
    | none => exact ⟨nofun, rfl⟩
    | some v =>
      rw [Option.elim_some]
      refine ⟨plain.data v data, readData_of_parse? ?_⟩
      rw [String.ofList_toList]
      exact reads v data
  exact decode_eq_ok_iff.mpr ⟨_, _, _, p.dataText, p.toList_encode, p.kind.ofDigit_digit,
    cutNamespace_append plain.ns (slashless reads), cutId?_append word apart.1, apart.2⟩

theorem isPlain_of_decode (reads : ∀ v ∈ p.data, Json.parse? v.render = some v)
    (decoded : decode p.encode = .ok p) : p.IsPlain := by
  obtain ⟨_, _, afterNs, afterId, chars, _, ns, id, data⟩ := decode_eq_ok_iff.mp decoded
  rw [p.toList_encode] at chars
  obtain ⟨rfl, rfl⟩ := List.cons.inj chars
  have named : IsNamespace p.ns := by
    have cut := isNamespace_cutNamespace ((nsText p.ns).toList ++ (p.idText ++ p.dataText))
    rw [ns] at cut
    exact cut
  rw [cutNamespace_append named (slashless reads)] at ns
  obtain rfl : p.idText ++ p.dataText = afterNs := congrArg Prod.snd ns
  -- The digits of the data are lost to the number, and what is left of the data is none.
  have left : afterId = p.dataText.dropWhile Char.isDigit := by
    rw [rest_of_cutId? id, List.dropWhile_append_of_pos fun c => isDigit_of_mem_idText]
  refine ⟨named, fun v member digit => ?_⟩
  have text : p.dataText = v.render.toList := by
    rw [dataText, member, Option.elim_some]
  rw [left, text, member] at data
  exact readData_dropDigits (reads v member) digit data

end SocketPacket

theorem EnginePacket.decode_message (p : SocketPacket) :
    EnginePacket.decode (EnginePacket.message p).encode = .message <$> SocketPacket.decode p.encode := by
  unfold EnginePacket.decode EnginePacket.encode
  simp

/-- A packet is read again from its text, by itself or in a frame, if and only if its namespace can
be told from what follows and its data does not begin with a digit. -/
theorem SocketPacket.decode_encode_iff (p : SocketPacket) (word : ∀ n ∈ p.id, n < idLimit)
    (reads : ∀ v ∈ p.data, Json.parse? v.render = some v) :
    (decode p.encode = .ok p ↔ p.IsPlain) ∧
      (EnginePacket.decode (EnginePacket.message p).encode = .ok (.message p) ↔ p.IsPlain) := by
  have plain : decode p.encode = .ok p ↔ p.IsPlain :=
    ⟨isPlain_of_decode reads, decode_of_isPlain word reads⟩
  refine ⟨plain, ?_⟩
  rw [EnginePacket.decode_message, ← plain]
  cases decode p.encode with
  | error e => exact ⟨nofun, nofun⟩
  | ok q =>
    constructor
    · intro same
      cases same
      rfl
    · intro same
      cases same
      rfl

/-- A numbered packet is read again with a list for its data, and not with a number. -/
theorem SocketPacket.decode_encode_iff_numbered :
    let reply (data : Json) : SocketPacket := ⟨.ack, "/chat", some 12, some data⟩
    decode (reply (.arr [.int 5])).encode = .ok (reply (.arr [.int 5])) ∧
      decode (reply (.int 5)).encode ≠ .ok (reply (.int 5)) := by
  have word : ∀ n ∈ some 12, n < idLimit := by
    intro n member
    obtain rfl := Option.mem_some_iff.mp member
    decide
  have reads (v : Json) (reads : Json.parse? v.render = some v) :
      ∀ w ∈ some v, Json.parse? w.render = some w := by
    intro w member
    obtain rfl := Option.mem_some_iff.mp member
    exact reads
  constructor
  · refine (decode_encode_iff ⟨.ack, "/chat", some 12, some (.arr [.int 5])⟩ word
      (reads _ (by with_unfolding_all rfl))).1.mpr ⟨.inr ⟨⟨_, rfl⟩, by decide⟩, ?_⟩
    intro v member
    obtain rfl := Option.mem_some_iff.mp member
    rintro ⟨c, rest, text, digit⟩
    have start : (Json.arr [.int 5]).render.toList = ['[', '5', ']'] := by decide +kernel
    rw [start] at text
    obtain ⟨rfl, rfl⟩ := List.cons.inj text
    revert digit
    decide
  · intro same
    have plain := (decode_encode_iff ⟨.ack, "/chat", some 12, some (.int 5)⟩ word
      (reads _ (by with_unfolding_all rfl))).1.mp same
    exact plain.data _ rfl ⟨'5', [], by decide +kernel, by decide⟩

end LiveSession
