import LiveSession.Json.Document

/-!
# Runs of digits

Where the digits at the start of a text end, and the number that they spell.
-/

namespace LiveSession

namespace Text

variable {cs ds rest : List Char}

def StartsWithDigit (cs : List Char) : Prop :=
  ∃ c rest, cs = c :: rest ∧ c.isDigit = true

theorem takeWhile_isDigit (apart : ¬ StartsWithDigit cs) : cs.takeWhile Char.isDigit = [] := by
  cases cs with
  | nil => rfl
  | cons c cs => exact List.takeWhile_cons_of_neg fun digit => apart ⟨c, cs, rfl, digit⟩

theorem dropWhile_isDigit (apart : ¬ StartsWithDigit cs) : cs.dropWhile Char.isDigit = cs := by
  cases cs with
  | nil => rfl
  | cons c cs => exact List.dropWhile_cons_of_neg fun digit => apart ⟨c, cs, rfl, digit⟩

theorem takeWhile_isDigit_append (digits : ∀ c ∈ ds, c.isDigit = true)
    (ends : ¬ StartsWithDigit rest) :
    (ds ++ rest).takeWhile Char.isDigit = ds ∧ (ds ++ rest).dropWhile Char.isDigit = rest := by
  constructor
  · rw [List.takeWhile_append_of_pos digits, takeWhile_isDigit ends, List.append_nil]
  · rw [List.dropWhile_append_of_pos digits, dropWhile_isDigit ends]

theorem isDigit_of_mem_takeWhile : ∀ c ∈ cs.takeWhile Char.isDigit, c.isDigit = true := by
  intro c member
  have all : (cs.takeWhile Char.isDigit).all Char.isDigit = true := List.all_takeWhile
  exact List.all_eq_true.mp all c member

theorem not_startsWithDigit_dropWhile (cs : List Char) :
    ¬ StartsWithDigit (cs.dropWhile Char.isDigit) := by
  rintro ⟨c, rest, start, digit⟩
  have head := List.head?_dropWhile_not Char.isDigit cs
  simp [start, digit] at head

end Text

namespace Literal

theorem digitsValue_map (ds : List Char) :
    digitsValue (ds.map fun c => c.toNat - '0'.toNat) = Nat.ofDigitChars 10 ds 0 := by
  rw [Nat.ofDigitChars_eq_foldl]
  simp only [digitsValue, List.foldl_map, Nat.mul_comm 10]

theorem digitsValue_toDigits (n : Nat) :
    digitsValue ((Nat.toDigits 10 n).map fun c => c.toNat - '0'.toNat) = n := by
  rw [digitsValue_map]
  exact Nat.ofDigitChars_toDigits (by decide) (by decide)

end Literal

end LiveSession
