import LiveSession.Json.Shape

/-!
# Values of a given shape

Each reader takes exactly the values of its shape.
-/

namespace LiveSession

namespace Json

variable {v : Json}

theorem asText?_eq_some {s : String} : v.asText? = some s ↔ v = .str s := by
  cases v <;> simp [asText?]

theorem asBool?_eq_some {b : Bool} : v.asBool? = some b ↔ v = .bool b := by
  cases v <;> simp [asBool?]

theorem asArray?_eq_some {items : List Json} : v.asArray? = some items ↔ v = .arr items := by
  cases v <;> simp [asArray?]

theorem asObject?_eq_some {members : List (String × Json)} :
    v.asObject? = some members ↔ v = .obj members := by
  cases v <;> simp [asObject?]

theorem asWord?_eq_some {bound n : Nat} : v.asWord? bound = some n ↔ n < bound ∧ v = .int n := by
  cases v with
  | int m =>
    simp only [asWord?, Option.ite_none_right_eq_some, Option.some.injEq, int.injEq]
    constructor
    · rintro ⟨⟨whole, below⟩, rfl⟩
      omega
    · rintro ⟨below, rfl⟩
      omega
  | _ => simp [asWord?]

theorem asTexts?_eq_some {texts : List String} :
    v.asTexts? = some texts ↔ v = .arr (texts.map .str) := by
  have each (items : List Json) (texts : List String) :
      items.mapM asText? = some texts ↔ items = texts.map .str := by
    induction items generalizing texts with
    | nil => cases texts <;> simp
    | cons item items ih =>
      rw [List.mapM_cons]
      cases texts <;> simp [Option.bind_eq_some_iff, asText?_eq_some, ih]
  cases v with
  | arr items => simp [asTexts?, each]
  | _ => simp [asTexts?]

theorem orNull?_eq_some {read : Json → Option α} {x : Option α} :
    orNull? read v = some x ↔ v = .null ∧ x = none ∨ v ≠ .null ∧ ∃ y, read v = some y ∧ x = some y := by
  have swap : (read v).map some = some x ↔ ∃ y, read v = some y ∧ x = some y := by
    simp only [Option.map_eq_some_iff, eq_comm]
  cases v with
  | null => simp [orNull?, eq_comm]
  | _ => simpa [orNull?] using swap

end Json

end LiveSession
