import LiveSession.Json.Read

/-!
# Where a number ends

A document that begins with a digit is a number, and it goes on after its first digits with a point
or an exponent only. So what follows those digits cannot be read by itself.
-/

namespace LiveSession

namespace Document

variable {c : Char} {cs rest text : List Char} {d : Document}

/-- The characters that a document other than a number without a sign begins with. -/
def isOpener (c : Char) : Bool :=
  c == '"' || c == '[' || c == '\x7b' || c == '-' || c == 'n' || c == 't' || c == 'f'

theorem value_of_not_opener (other : isOpener c = false) :
    value (c :: rest) = magnitude? false (c :: rest) := by
  simp only [isOpener, Bool.or_eq_false_iff, beq_eq_false_iff_ne] at other
  rw [value]
  all_goals simp_all

theorem value_nil : value [] = none := by
  simp [value]

theorem isOpener_of_isDigit (digit : c.isDigit = true) : isOpener c = false := by
  simp only [isOpener, Bool.or_eq_false_iff, beq_eq_false_iff_ne]
  refine ⟨⟨⟨⟨⟨⟨?_, ?_⟩, ?_⟩, ?_⟩, ?_⟩, ?_⟩, ?_⟩
  all_goals
    rintro rfl
    revert digit
    decide

theorem value_of_readList? (start : skipGap cs = text) (read : readList? cs = some d) :
    ∃ r : Rest text, value text = some (d, r) ∧ skipGap r.1 = [] := by
  subst start
  unfold readList? at read
  split at read
  · rename_i found
    split at read
    · rename_i ends
      cases read
      exact ⟨_, found, ends⟩
    · cases read
  · cases read

theorem readList?_of_value {r : Rest text} (start : skipGap cs = text) (found : value text = some (d, r))
    (ends : skipGap r.1 = []) : readList? cs = some d := by
  subst start
  unfold readList?
  rw [found]
  exact if_pos ends

theorem readList?_eq_none (start : skipGap cs = text) (nothing : value text = none) :
    readList? cs = none := by
  cases read : readList? cs with
  | none => rfl
  | some d =>
    obtain ⟨r, found, _⟩ := value_of_readList? start read
    rw [nothing] at found
    cases found

/-! ### The parts of a number -/

theorem whole?_eq_none (other : c.isDigit = false) : whole? (c :: rest) = none := by
  unfold whole?
  split
  · rfl
  · rename_i d ds r spanned
    simp [spanDigits, other] at spanned

theorem rest_of_whole? {ds : List Nat} {r : Rest cs} (read : whole? cs = some (ds, r)) :
    r.1 = cs.dropWhile Char.isDigit := by
  unfold whole? at read
  split at read
  · cases read
  · rename_i spanned
    split at read
    · cases read
    · cases read
      exact (congrArg Prod.snd spanned).symm

theorem rest_of_fraction? {f : Option (List Nat)} {r : { r : List Char // r.length ≤ cs.length }}
    (read : fraction? cs = some (f, r)) : r.1 = cs ∨ ∃ rest, cs = '.' :: rest := by
  unfold fraction? at read
  split at read
  · exact .inr ⟨_, rfl⟩
  · cases read
    exact .inl rfl

theorem rest_of_exponent? {e : Option (Bool × List Nat)}
    {r : { r : List Char // r.length ≤ cs.length }} (read : exponent? cs = some (e, r)) :
    r.1 = cs ∨ ∃ rest, cs = 'e' :: rest ∨ cs = 'E' :: rest := by
  unfold exponent? at read
  split at read
  · cases read
    exact .inl rfl
  · split at read
    · rename_i c rest mark
      refine .inr ⟨rest, ?_⟩
      rcases mark with rfl | rfl
      · exact .inl rfl
      · exact .inr rfl
    · cases read
      exact .inl rfl

/-- A number ends where its digits do, unless a point or an exponent follows them. -/
theorem rest_of_magnitude? {negative : Bool} {r : Rest cs}
    (read : magnitude? negative cs = some (d, r)) :
    r.1 = cs.dropWhile Char.isDigit ∨
      ∃ c rest, cs.dropWhile Char.isDigit = c :: rest ∧ (c = '.' ∨ c = 'e' ∨ c = 'E') := by
  unfold magnitude? at read
  split at read
  · cases read
  · rename_i whole
    split at read
    · cases read
    · rename_i fraction
      split at read
      · cases read
      · rename_i exponent
        cases read
        rw [← rest_of_whole? whole]
        rcases rest_of_fraction? fraction with kept | ⟨rest, point⟩
        · rcases rest_of_exponent? exponent with kept' | ⟨rest, mark⟩
          · exact .inl (kept'.trans kept)
          · rw [kept] at mark
            rcases mark with mark | mark
            · exact .inr ⟨_, rest, mark, .inr (.inl rfl)⟩
            · exact .inr ⟨_, rest, mark, .inr (.inr rfl)⟩
        · exact .inr ⟨_, rest, point, .inl rfl⟩

/-- What follows the first digits of a number is no document of its own. -/
theorem readList?_dropDigits (digit : c.isDigit = true) (read : readList? (c :: cs) = some d) :
    readList? ((c :: cs).dropWhile Char.isDigit) = none := by
  have solid : skipGap (c :: cs) = c :: cs := by
    refine List.dropWhile_cons_of_neg fun gap => ?_
    simp only [isGap, Bool.or_eq_true, beq_iff_eq] at gap
    rcases gap with ((rfl | rfl) | rfl) | rfl <;> revert digit <;> decide
  obtain ⟨r, found, ends⟩ := value_of_readList? solid read
  rw [value_of_not_opener (isOpener_of_isDigit digit)] at found
  rcases rest_of_magnitude? found with same | ⟨next, rest, after, mark⟩
  · rw [← same]
    exact readList?_eq_none ends value_nil
  · have plain : isGap next = false ∧ isOpener next = false ∧ next.isDigit = false := by
      rcases mark with rfl | rfl | rfl <;> decide
    have start : skipGap (next :: rest) = next :: rest :=
      List.dropWhile_cons_of_neg (by simp [plain.1])
    rw [after]
    refine readList?_eq_none start ?_
    rw [value_of_not_opener plain.2.1, magnitude?, whole?_eq_none plain.2.2]

end Document

end LiveSession
