import LiveSession.Json.Render
import LiveSession.Proofs.Json.Reading
import LiveSession.Proofs.Text.Digits

/-!
# Numbers without a sign

The texts of numbers without a sign begin with a digit, and no other text of a value does. A document
that is not read from a digit on has no such number for its value.
-/

namespace LiveSession

variable {c : Char} {cs rest : List Char} {v : Json} {d : Document}

/-- A number that is written without a sign. -/
def Json.IsUnsigned : Json → Prop
  | .int n => 0 ≤ n
  | .float x => x.negative = false
  | _ => False

/-! ### Floating-point numbers -/

namespace Binary64

variable {x y : Binary64} {negative : Bool} {num den : Nat}

theorem negative_of_ofRatio? (rounded : ofRatio? negative num den = some x) : x.negative = negative := by
  unfold ofRatio? at rounded
  by_cases zero : num = 0
  · rw [if_pos zero] at rounded
    cases rounded
    rfl
  · rw [if_neg zero] at rounded
    obtain ⟨_, same⟩ := Option.dite_none_right_eq_some.mp rounded
    cases same
    rfl

theorem startsWithDigit_positional {digits : List Char} (some_ : Text.StartsWithDigit digits)
    (lead : Int) : Text.StartsWithDigit (positional digits lead) := by
  obtain ⟨c, rest, rfl, digit⟩ := some_
  unfold positional
  dsimp only
  split
  · exact ⟨'0', _, rfl, by decide⟩
  · split
    · exact ⟨c, _, rfl, digit⟩
    · exact ⟨c, _, rfl, digit⟩

theorem startsWithDigit_scientific {digits : List Char} (some_ : Text.StartsWithDigit digits)
    (lead : Int) : Text.StartsWithDigit (scientific digits lead) := by
  obtain ⟨c, rest, rfl, digit⟩ := some_
  exact ⟨c, _, rfl, digit⟩

end Binary64

theorem Text.startsWithDigit_toDigits (n : Nat) : StartsWithDigit (Nat.toDigits 10 n) := by
  obtain ⟨c, rest, start⟩ := List.exists_cons_of_ne_nil (Nat.toDigits_ne_nil (b := 10) (n := n))
  exact ⟨c, rest, start,
    Nat.isDigit_of_mem_toDigits (by decide) (by decide) (start ▸ List.mem_cons_self)⟩

theorem Binary64.startsWithDigit_text (x : Binary64) :
    Text.StartsWithDigit x.text.toList ↔ x.negative = false := by
  have body : ∃ cs, x.text.toList = (if x.negative then ['-'] else []) ++ cs ∧
      Text.StartsWithDigit cs := by
    unfold text
    dsimp only
    split
    · exact ⟨['0', '.', '0'], String.toList_ofList, '0', _, rfl, by decide⟩
    · refine ⟨_, String.toList_ofList, ?_⟩
      have digits := Text.startsWithDigit_toDigits (Decimal.shortest x).digits
      split
      · exact startsWithDigit_positional digits _
      · exact startsWithDigit_scientific digits _
  obtain ⟨cs, written, digits⟩ := body
  rw [written]
  cases x.negative with
  | false => simpa using digits
  | true =>
    simp only [if_true, List.singleton_append, Bool.true_eq_false, iff_false]
    rintro ⟨c, rest, same, digit⟩
    cases same
    cases digit

namespace Literal

variable {n : Literal} {x y : Binary64}

theorem negative_of_scale? {steps : Nat} {e : Int} (scaled : scale? x steps e = some y) :
    y.negative = x.negative := by
  induction steps generalizing x e with
  | zero =>
    cases scaled
    rfl
  | succ steps ih =>
    unfold scale? at scaled
    split at scaled
    · obtain ⟨p, _, scaled⟩ := Option.bind_eq_some_iff.mp scaled
      split at scaled
      · exact Binary64.negative_of_ofRatio? scaled
      · exact Binary64.negative_of_ofRatio? scaled
    · split at scaled
      · cases scaled
        rfl
      · split at scaled
        · cases scaled
        · obtain ⟨p, _, scaled⟩ := Option.bind_eq_some_iff.mp scaled
          obtain ⟨z, down, scaled⟩ := Option.bind_eq_some_iff.mp scaled
          exact (ih scaled).trans (Binary64.negative_of_ofRatio? down)

theorem negative_of_float? (read : n.float? = some x) : x.negative = n.negative := by
  have scaled {significand : Nat} {e : Int}
      (scaled : ((Binary64.ofRatio? n.negative significand 1).bind fun y => scale? y 4 e) = some x) :
      x.negative = n.negative := by
    obtain ⟨y, rounded, scaled⟩ := Option.bind_eq_some_iff.mp scaled
    exact (negative_of_scale? scaled).trans (Binary64.negative_of_ofRatio? rounded)
  unfold float? at read
  dsimp only at read
  split at read
  · exact scaled read
  · split at read
    · split at read
      · cases read
        rfl
      · cases read
    · exact scaled read

theorem not_isUnsigned_of_value? (negative : n.negative = true) (read : n.value? = some v) :
    ¬ v.IsUnsigned := by
  have float (read : n.float?.map Json.float = some v) : ¬ v.IsUnsigned := by
    obtain ⟨x, found, rfl⟩ := Option.map_eq_some_iff.mp read
    simp [Json.IsUnsigned, negative_of_float? found, negative]
  unfold value? at read
  split at read
  · dsimp only at read
    rw [if_pos negative] at read
    split at read
    · rename_i small
      cases read
      simp only [Json.IsUnsigned]
      omega
    · exact float read
  · exact float read

end Literal

/-! ### Texts -/

theorem Json.startsWithDigit_render (v : Json) :
    Text.StartsWithDigit v.render.toList ↔ v.IsUnsigned := by
  have other {c : Char} {cs : List Char} (start : v.render.toList = c :: cs) (sign : c.isDigit = false) :
      ¬ Text.StartsWithDigit v.render.toList := by
    rintro ⟨c', rest, same, digit⟩
    rw [start] at same
    cases same
    rw [sign] at digit
    cases digit
  cases v with
  | int n =>
    cases n with
    | ofNat n =>
      have text : (Json.int (.ofNat n)).render.toList = Nat.toDigits 10 n := Nat.toList_repr
      rw [text]
      exact iff_of_true (Text.startsWithDigit_toDigits n) (Int.natCast_nonneg n)
    | negSucc n =>
      have text : (Json.int (.negSucc n)).render.toList = '-' :: (Nat.repr (n + 1)).toList :=
        String.toList_append
      exact iff_of_false (other text (by decide)) (by simp [IsUnsigned])
  | float x => exact x.startsWithDigit_text
  | null => exact iff_of_false (other rfl (by decide)) id
  | bool b => cases b <;> exact iff_of_false (other rfl (by decide)) id
  | str s =>
    have text : (Json.str s).render.toList =
        '"' :: ((s.foldl (fun out c => out ++ escapeChar c) "").toList ++ ['"']) := by
      simp [render, renderString]
    exact iff_of_false (other text (by decide)) id
  | arr items =>
    have text : ∃ cs, (Json.arr items).render.toList = '[' :: cs := by
      cases items <;> simp [render]
    exact iff_of_false (other text.choose_spec (by decide)) id
  | obj members =>
    have text : ∃ cs, (Json.obj members).render.toList = '\x7b' :: cs := by
      cases members <;> simp [render]
    exact iff_of_false (other text.choose_spec (by decide)) id

/-! ### Documents -/

namespace Document

variable {depth : Nat} {word : List Char} {e : Document}

theorem eq_of_word? {r : Rest cs} (read : word? word e cs = some (d, r)) : d = e := by
  unfold word? at read
  split at read
  · cases read
  · split at read
    · cases read
      rfl
    · cases read

theorem negative_of_magnitude? {negative : Bool} {r : Rest cs}
    (read : magnitude? negative cs = some (d, r)) : ∃ n, d = .number n ∧ n.negative = negative := by
  unfold magnitude? at read
  split at read
  · cases read
  · split at read
    · cases read
    · split at read
      · cases read
      · cases read
        exact ⟨_, rfl, rfl⟩

/-- A number that does not begin with a digit has a sign. -/
theorem negative_of_value {n : Literal} {r : Rest (c :: cs)}
    (read : value (c :: cs) = some (.number n, r)) (other : c.isDigit = false) : n.negative = true := by
  by_cases opener : isOpener c = false
  · rw [value_of_not_opener opener, magnitude?, whole?_eq_none other] at read
    cases read
  · simp only [isOpener, Bool.not_eq_false, Bool.or_eq_true, beq_iff_eq] at opener
    rcases opener with (((((rfl | rfl) | rfl) | rfl) | rfl) | rfl) | rfl <;> rw [value] at read
    · obtain ⟨_, _, same⟩ := Option.map_eq_some_iff.mp read
      cases same
    · split at read
      · cases read
      · obtain ⟨_, _, same⟩ := Option.map_eq_some_iff.mp read
        cases same
    · split at read
      · cases read
      · obtain ⟨_, _, same⟩ := Option.map_eq_some_iff.mp read
        cases same
    · obtain ⟨⟨e, _⟩, found, same⟩ := Option.map_eq_some_iff.mp read
      cases same
      obtain ⟨m, number, negative⟩ := negative_of_magnitude? found
      cases number
      exact negative
    all_goals cases eq_of_word? read

/-- A document that does not begin with a digit has no number without a sign for its value. -/
theorem not_isUnsigned {r : Rest (c :: cs)} (read : value (c :: cs) = some (d, r))
    (other : c.isDigit = false) (stands : d.value? depth = some v) : ¬ v.IsUnsigned := by
  cases d with
  | number n => exact Literal.not_isUnsigned_of_value? (negative_of_value read other) (by simpa [value?] using stands)
  | null =>
    cases stands
    exact id
  | bool b =>
    cases stands
    exact id
  | str gs =>
    obtain ⟨s, _, rfl⟩ := Option.map_eq_some_iff.mp (by simpa only [value?] using stands)
    exact id
  | arr items =>
    cases depth with
    | zero => simp [value?] at stands
    | succ depth =>
      obtain ⟨_, _, rfl⟩ := Option.map_eq_some_iff.mp (by simpa only [value?] using stands)
      exact id
  | obj members =>
    cases depth with
    | zero => simp [value?] at stands
    | succ depth =>
      obtain ⟨_, _, rfl⟩ := Option.map_eq_some_iff.mp (by simpa only [value?] using stands)
      exact id

end Document

end LiveSession
