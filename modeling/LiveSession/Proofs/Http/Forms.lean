import LiveSession.Http.Form
import LiveSession.Proofs.Text.Percent
import LiveSession.Proofs.Text.Pieces

/-!
# Forms that are read back

The separators of a form do not occur in what is written for a name or a value, so that its pieces are
found again, and each piece is read back as the parameter that it was written for.
-/

namespace LiveSession.Form

variable {c : Char}

theorem isKept_of_mem {s : String} (member : c ∈ encodeText s) : isKept c = true ∨ c = '%' := by
  rcases Percent.mem_encode_cases member with kept | percent | ⟨n, small, rfl⟩
  · exact .inl kept
  · exact .inr percent
  · have digits : ∀ n < 16, isKept (Percent.hexDigit n) = true := by decide
    exact .inl (digits n small)

theorem not_mem_encodeText (s : String) (unkept : isKept c = false) (plain : c ≠ '%') :
    c ∉ encodeText s := by
  intro member
  rcases isKept_of_mem member with kept | percent
  · rw [unkept] at kept
    cases kept
  · exact plain percent

theorem not_mem_encodePair (p : String × String) : '&' ∉ encodePair p := by
  unfold encodePair
  rw [List.mem_append, List.mem_cons]
  rintro (name | same | value)
  · exact not_mem_encodeText _ (by decide) (by decide) name
  · cases same
  · exact not_mem_encodeText _ (by decide) (by decide) value

theorem decodeText?_encodeText (s : String) : decodeText? (encodeText s) = some s := by
  rw [decodeText?, encodeText, Percent.decodeText?_encode (by decide), Option.map_some,
    String.ofList_toList]

theorem decodePair?_encodePair (p : String × String) : decodePair? (encodePair p) = some p := by
  have cut : Text.cut? '=' (encodePair p) = some (encodeText p.1, encodeText p.2) :=
    Text.cut?_append (not_mem_encodeText _ (by decide) (by decide))
  rw [decodePair?, cut]
  show (do return (← decodeText? (encodeText p.1), ← decodeText? (encodeText p.2))) = some p
  rw [decodeText?_encodeText, decodeText?_encodeText]
  rfl

theorem splitAll_encodePairs {params : List (String × String)} (some_ : params ≠ []) :
    Text.splitAll '&' (encodePairs params) = params.map encodePair := by
  induction params with
  | nil => exact absurd rfl some_
  | cons p rest ih =>
    cases rest with
    | nil => exact Text.splitAll_of_not_mem (not_mem_encodePair p)
    | cons q rest =>
      rw [encodePairs, Text.splitAll_append (not_mem_encodePair p), ih (List.cons_ne_nil _ _)]
      · rfl
      · exact List.cons_ne_nil _ _

theorem mapM_decodePair? (params : List (String × String)) :
    (params.map encodePair).mapM decodePair? = some params := by
  induction params with
  | nil => rfl
  | cons p rest ih =>
    rw [List.map_cons, List.mapM_cons, decodePair?_encodePair, ih]
    rfl

/-- The pieces of a form between its separators stand for its parameters, one by one. -/
theorem pieces_encode {params : List (String × String)} (some_ : params ≠ []) :
    (Text.splitAll '&' (encode params).toList).mapM decodePair? = some params := by
  rw [encode, String.toList_ofList, splitAll_encodePairs some_, mapM_decodePair?]

theorem encode_eq_empty (params : List (String × String)) : encode params = "" ↔ params = [] := by
  constructor
  · intro empty
    cases params with
    | nil => rfl
    | cons p rest =>
      have pieces := pieces_encode (List.cons_ne_nil p rest)
      rw [empty] at pieces
      -- The one piece of an empty text lacks the `=` of a parameter.
      cases pieces
  · rintro rfl
    rfl

theorem decode?_encode (params : List (String × String)) : decode? (encode params) = some params := by
  unfold decode?
  split
  · rename_i empty
    rw [(encode_eq_empty params).mp (String.isEmpty_iff.mp empty)]
  · rename_i written
    refine pieces_encode fun none => written ?_
    rw [none]
    rfl

/-- A form loses nothing: split at `&`, each piece at its first `=`, and with both sides read it gives the
parameters back. Only the form without parameters is empty, and no two lists have the same form. -/
theorem encode_lossless :
    (∀ params, params ≠ [] →
        (Text.splitAll '&' (encode params).toList).mapM decodePair? = some params) ∧
      (∀ params, encode params = "" ↔ params = []) ∧ Function.Injective encode := by
  refine ⟨fun params some_ => pieces_encode some_, encode_eq_empty, fun params params' same => ?_⟩
  have read := decode?_encode params
  rw [same, decode?_encode] at read
  exact (Option.some.inj read).symm

/-- Separators within names and values, a piece without either, and a name that comes twice. -/
theorem encode_lossless_separators :
    let params := [("a&b", "1 2=é"), ("", ""), ("a&b", "%41")]
    params ≠ [] ∧ (Text.splitAll '&' (encode params).toList).mapM decodePair? = some params := by
  intro params
  have some_ : params ≠ [] := List.cons_ne_nil _ _
  exact ⟨some_, encode_lossless.1 params some_⟩

end LiveSession.Form
