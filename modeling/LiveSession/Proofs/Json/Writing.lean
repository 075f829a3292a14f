import LiveSession.Json.Fields
import LiveSession.Json.Render
import LiveSession.Proofs.Json.Reading
import LiveSession.Proofs.Text.Digits
import Mathlib.Data.List.Forall2

/-!
# JSON texts read again

`Written v d` says that the text of the value `v` is read as the document `d`, whatever follows it.
Strings, whole numbers without a sign, and lists and objects of what is written are written so.
-/

namespace LiveSession

variable {α β : Type} {cs text rest : List Char}

/-- A reader of `text` has read `a` from its start and leaves `rest`. -/
def Leaves (result : Option (α × Rest text)) (a : α) (rest : List Char) : Prop :=
  ∃ r, result = some (a, r) ∧ r.1 = rest

theorem Leaves.map {result : Option (α × Rest cs)} {a : α} (leaves : Leaves result a rest)
    (f : α → β) (shorter : cs.length ≤ text.length) :
    Leaves (result.map fun p => (f p.1, p.2.widen shorter)) (f a) rest := by
  obtain ⟨r, rfl, rfl⟩ := leaves
  exact ⟨_, rfl, rfl⟩

/-! ### Strings -/

/-- How a character is written in a string. -/
def Glyph.ofChar (c : Char) : Glyph :=
  if c.toNat < 0x20 ∧ ¬ (c = '\x08' ∨ c = '\x0c' ∨ c = '\n' ∨ c = '\r' ∨ c = '\t') then .unit c.toNat
  else .plain c

def Glyph.ofText (s : String) : List Glyph :=
  s.toList.map ofChar

theorem Glyph.text?_unit {n : Nat} (low : n < 0xD800) (gs : List Glyph) :
    text? (.unit n :: gs) = (text? gs).map (Char.ofNat n :: ·) := by
  have single : ¬ (0xDC00 ≤ n ∧ n < 0xE000) ∧ ¬ (0xD800 ≤ n ∧ n < 0xDC00) := by omega
  cases gs with
  | nil => simp only [text?, if_neg single.1, if_neg single.2]
  | cons g gs => cases g <;> simp only [text?, if_neg single.1, if_neg single.2]

theorem Glyph.string?_ofText (s : String) : string? (ofText s) = some s := by
  have chars (cs : List Char) : text? (cs.map ofChar) = some cs := by
    induction cs with
    | nil => rfl
    | cons c cs ih =>
      rw [List.map_cons]
      by_cases control : c.toNat < 0x20 ∧
          ¬ (c = '\x08' ∨ c = '\x0c' ∨ c = '\n' ∨ c = '\r' ∨ c = '\t')
      · rw [ofChar, if_pos control, text?_unit (by omega), ih, Option.map_some, Char.ofNat_toNat]
      · rw [ofChar, if_neg control, text?, ih, Option.map_some]
  rw [string?, ofText, chars, Option.map_some, String.ofList_toList]

namespace Document

variable {gs : List Glyph} {c : Char}

theorem leaves_short {e : Char} (stands : escaped? c = some e) (leaves : Leaves (glyphs? cs) gs rest) :
    Leaves (glyphs? ('\\' :: c :: cs)) (.plain e :: gs) rest := by
  have other : c ≠ 'u' := by
    rintro rfl
    cases stands
  have read : glyphs? ('\\' :: c :: cs) =
      (glyphs? cs).map fun p => (.plain e :: p.1, p.2.widen (by simp; omega)) := by
    rw [glyphs?]
    · simp only [stands]
    · intro _ _ _ _ _ same
      exact absurd same other
  rw [read]
  exact leaves.map _ _

theorem leaves_unit {a b c d : Char} {n : Nat} (high : hexValue? a = some 0 ∧ hexValue? b = some 0)
    (low : ∃ x y, hexValue? c = some x ∧ hexValue? d = some y ∧ x * 16 + y = n)
    (leaves : Leaves (glyphs? cs) gs rest) :
    Leaves (glyphs? ('\\' :: 'u' :: a :: b :: c :: d :: cs)) (.unit n :: gs) rest := by
  obtain ⟨x, y, first, second, rfl⟩ := low
  rw [glyphs?]
  simp only [high, first, second, Nat.zero_mul, Nat.zero_add]
  exact leaves.map _ _

theorem leaves_plain (shown : ¬ c.toNat < 0x20) (quote : c ≠ '"') (backslash : c ≠ '\\')
    (leaves : Leaves (glyphs? cs) gs rest) : Leaves (glyphs? (c :: cs)) (.plain c :: gs) rest := by
  have read : glyphs? (c :: cs) =
      (glyphs? cs).map fun p => (.plain c :: p.1, p.2.widen (by simp)) := by
    rw [glyphs?]
    · rw [if_neg (by simp [shown, backslash])]
    · exact quote
    · intro _ _ _ _ _ same
      exact absurd same backslash
    · intro _ _ same
      exact absurd same backslash
  rw [read]
  exact leaves.map _ _

theorem hexValue?_digitChar : ∀ d < 16, hexValue? d.digitChar = some d := by
  decide

theorem escapeChar_control (control : c.toNat < 0x20) :
    ∃ x y : Nat, (if c.toNat < 0x10 then "\\u000" ++ Text.hex c.toNat
        else "\\u00" ++ Text.hex c.toNat).toList = ['\\', 'u', '0', '0', x.digitChar, y.digitChar] ∧
      x < 16 ∧ y < 16 ∧ x * 16 + y = c.toNat := by
  by_cases small : c.toNat < 0x10
  · have digits : Nat.toDigits 16 c.toNat = [c.toNat.digitChar] := Nat.toDigits_of_lt_base small
    refine ⟨0, c.toNat, ?_, by omega, small, by omega⟩
    simp [small, Text.hex, digits]
  · have one : c.toNat / 16 = 1 := by omega
    have digits : Nat.toDigits 16 c.toNat = ['1', (c.toNat % 16).digitChar] := by
      rw [Nat.toDigits_eq_if (by decide), if_neg small, one]
      rfl
    refine ⟨1, c.toNat % 16, ?_, by omega, by omega, by omega⟩
    simp [small, Text.hex, digits]

theorem leaves_escapeChar (c : Char) (leaves : Leaves (glyphs? cs) gs rest) :
    Leaves (glyphs? ((Json.escapeChar c).toList ++ cs)) (Glyph.ofChar c :: gs) rest := by
  by_cases control : c.toNat < 0x20 ∧
      ¬ (c = '\x08' ∨ c = '\x0c' ∨ c = '\n' ∨ c = '\r' ∨ c = '\t')
  · have printed : c ≠ '"' ∧ c ≠ '\\' := by
      constructor <;> rintro rfl <;> exact absurd control.1 (by decide)
    simp only [not_or] at control
    have escaped : Json.escapeChar c = if c.toNat < 0x10 then "\\u000" ++ Text.hex c.toNat
        else "\\u00" ++ Text.hex c.toNat := by
      simp only [Json.escapeChar, printed, control, if_false, if_true]
    obtain ⟨x, y, written, high, low, value⟩ := escapeChar_control control.1
    rw [escaped, written, Glyph.ofChar, if_pos (by simpa only [not_or] using control)]
    refine leaves_unit ⟨rfl, rfl⟩ ⟨x, y, ?_, ?_, value⟩ leaves
    · exact hexValue?_digitChar x high
    · exact hexValue?_digitChar y low
  · rw [Glyph.ofChar, if_neg control]
    by_cases short : c = '"' ∨ c = '\\' ∨ c = '\x08' ∨ c = '\x0c' ∨ c = '\n' ∨ c = '\r' ∨ c = '\t'
    · rcases short with rfl | rfl | rfl | rfl | rfl | rfl | rfl <;> exact leaves_short rfl leaves
    · simp only [not_or] at short
      have shown : ¬ c.toNat < 0x20 := fun low => control ⟨low, by simp only [short, or_false, not_false_eq_true]⟩
      have plain : Json.escapeChar c = String.singleton c := by
        have above : ¬ c.toNat < 0x10 := by omega
        simp only [Json.escapeChar, short, shown, above, if_false]
      rw [plain, String.toList_singleton, List.singleton_append]
      exact leaves_plain shown short.1 short.2.1 leaves

/-- The text of a string between its quotes. -/
def insideOf (s : String) : List Char :=
  s.toList.flatMap fun c => (Json.escapeChar c).toList

theorem renderString_append (s : String) (cs : List Char) :
    (Json.renderString s).toList ++ cs = '"' :: (insideOf s ++ '"' :: cs) := by
  have folded (cs : List Char) (out : String) :
      (cs.foldl (fun out c => out ++ Json.escapeChar c) out).toList =
        out.toList ++ cs.flatMap fun c => (Json.escapeChar c).toList := by
    induction cs generalizing out with
    | nil => simp
    | cons c cs ih => simp [ih]
  simp [Json.renderString, insideOf, String.foldl_eq_foldl_toList, folded]

/-- The inside of a string that is written is read up to its closing quote. -/
theorem leaves_inside (s : String) (rest : List Char) :
    Leaves (glyphs? (insideOf s ++ '"' :: rest)) (Glyph.ofText s) rest := by
  unfold insideOf Glyph.ofText
  induction s.toList with
  | nil =>
    rw [List.flatMap_nil, List.nil_append, glyphs?]
    exact ⟨_, rfl, rfl⟩
  | cons c cs ih =>
    rw [List.flatMap_cons, List.append_assoc, List.map_cons]
    exact leaves_escapeChar c ih

/-! ### Numbers -/

/-- What follows a value does not go on with a number. -/
def Ends (rest : List Char) : Prop :=
  ∀ c ∈ rest.head?, c.isDigit = false ∧ c ≠ '.' ∧ c ≠ 'e' ∧ c ≠ 'E'

theorem fraction?_of_ends (ends : Ends rest) : fraction? rest = some (none, ⟨rest, Nat.le_refl _⟩) := by
  unfold fraction?
  split
  · exact absurd rfl (ends '.' rfl).2.1
  · rfl

theorem exponent?_of_ends (ends : Ends rest) : exponent? rest = some (none, ⟨rest, Nat.le_refl _⟩) := by
  cases rest with
  | nil => rfl
  | cons c rest =>
    have ⟨_, _, small, capital⟩ := ends c rfl
    have other : ¬ (c = 'e' ∨ c = 'E') := not_or.mpr ⟨small, capital⟩
    simp only [exponent?, if_neg other]

theorem leaves_magnitude {ds : List Nat} (whole : Leaves (whole? cs) ds rest) (ends : Ends rest) :
    Leaves (magnitude? false cs) (.number ⟨false, ds, none, none⟩) rest := by
  obtain ⟨r, read, rfl⟩ := whole
  unfold magnitude?
  simp only [read, fraction?_of_ends ends, exponent?_of_ends ends]
  exact ⟨_, rfl, rfl⟩

theorem leaves_whole {d : Nat} {ds : List Nat} (spanned : spanDigits cs = (d :: ds, rest))
    (plain : d = 0 → ds = []) : Leaves (whole? cs) (d :: ds) rest := by
  unfold whole?
  split
  · rename_i nothing
    rw [spanned] at nothing
    cases nothing
  · rename_i found
    rw [spanned] at found
    cases found
    rw [if_neg fun both => both.2 (plain both.1)]
    exact ⟨_, rfl, rfl⟩

end Document

/-- A whole number without a sign as it is written. -/
def Literal.ofNat (n : Nat) : Literal :=
  ⟨false, (Nat.toDigits 10 n).map fun c => c.toNat - '0'.toNat, none, none⟩

theorem Literal.value?_ofNat {n : Nat} (word : n < Json.wordLimit) :
    (ofNat n).value? = some (.int n) := by
  simp only [value?, ofNat, digitsValue_toDigits, Bool.false_eq_true, if_false, if_pos word]

theorem Literal.exists_digits (n : Nat) :
    ∃ d ds, (ofNat n).whole = d :: ds ∧ (d = 0 → n = 0 ∧ ds = []) := by
  induction n using Nat.strongRecOn with
  | ind n ih =>
    unfold ofNat
    rw [Nat.toDigits_eq_if (by decide)]
    by_cases small : n < 10
    · rw [if_pos small]
      refine ⟨n, [], ?_, by simp⟩
      have digit : ∀ d < 10, d.digitChar.toNat - '0'.toNat = d := by decide
      rw [List.map_singleton, digit n small]
    · obtain ⟨d, ds, whole, zero⟩ := ih (n / 10) (by omega)
      rw [if_neg small]
      refine ⟨d, ds ++ [(n % 10).digitChar.toNat - '0'.toNat], ?_, fun same => ?_⟩
      · exact (List.map_append ..).trans (congrArg (· ++ _) whole)
      · have none_ := (zero same).1
        omega

namespace Document

theorem leaves_digits (n : Nat) (ends : Ends rest) :
    Leaves (value (Nat.toDigits 10 n ++ rest)) (.number (.ofNat n)) rest := by
  have digits : ∀ c ∈ Nat.toDigits 10 n, c.isDigit = true := fun c member =>
    Nat.isDigit_of_mem_toDigits (by decide) (by decide) member
  have apart : ¬ Text.StartsWithDigit rest := by
    rintro ⟨c, tail, rfl, digit⟩
    simp [(ends c rfl).1] at digit
  obtain ⟨run, after⟩ := Text.takeWhile_isDigit_append digits apart
  have spanned : spanDigits (Nat.toDigits 10 n ++ rest) = ((Literal.ofNat n).whole, rest) := by
    unfold spanDigits
    rw [run, after]
    rfl
  obtain ⟨d, ds, whole, zero⟩ := Literal.exists_digits n
  rw [whole] at spanned
  obtain ⟨c, tail, start⟩ := List.exists_cons_of_ne_nil (Nat.toDigits_ne_nil (b := 10) (n := n))
  have opener : isOpener c = false :=
    isOpener_of_isDigit (digits c (start ▸ List.mem_cons_self))
  have read := leaves_magnitude (leaves_whole spanned fun same => (zero same).2) ends
  rw [← whole] at read
  rw [start, List.cons_append] at read ⊢
  rw [value_of_not_opener opener]
  exact read

/-! ### Values -/

/-- The text of a value is read as a document, whatever follows it. -/
def Written (v : Json) (d : Document) : Prop :=
  ∀ rest, Ends rest → Leaves (value (v.render.toList ++ rest)) d rest

theorem written_str (s : String) : Written (.str s) (.str (Glyph.ofText s)) := by
  intro rest _
  rw [Json.render, renderString_append, value]
  exact (leaves_inside s rest).map _ _

theorem written_nat (n : Nat) : Written (.int n) (.number (.ofNat n)) := by
  intro rest ends
  have text : (Json.int n).render.toList = Nat.toDigits 10 n := by
    exact Nat.toList_repr
  rw [text]
  exact leaves_digits n ends

theorem start_of_leaves {d : Document} (leaves : Leaves (value cs) d rest) :
    skipGap cs = cs ∧ ∀ tail, cs ≠ ']' :: tail := by
  obtain ⟨r, read, -⟩ := leaves
  have refuses {c : Char} {tail : List Char} (opener : isOpener c = false)
      (digit : c.isDigit = false) : cs ≠ c :: tail := by
    rintro rfl
    rw [value_of_not_opener opener, magnitude?, whole?_eq_none digit] at read
    cases read
  constructor
  · cases cs with
    | nil => rfl
    | cons c tail =>
      refine List.dropWhile_cons_of_neg fun gap => ?_
      simp only [isGap, Bool.or_eq_true, beq_iff_eq] at gap
      rcases gap with ((rfl | rfl) | rfl) | rfl <;> exact refuses (by decide) (by decide) rfl
  · intro tail
    exact refuses (by decide) (by decide)

theorem ends_cons {c : Char} (other : c.isDigit = false ∧ c ≠ '.' ∧ c ≠ 'e' ∧ c ≠ 'E') :
    Ends (c :: rest) := by
  intro d same
  cases same
  exact other

theorem skipGap_cons {c : Char} (solid : isGap c = false) : skipGap (c :: rest) = c :: rest :=
  List.dropWhile_cons_of_neg (by simp [solid])

variable {d : Document} {ds : List Document} {mid : List Char}

theorem leaves_item (first : Leaves (value (skipGap cs)) d mid)
    (after : (skipGap mid = ']' :: rest ∧ ds = []) ∨
      ∃ next, skipGap mid = ',' :: next ∧ Leaves (items next) ds rest) :
    Leaves (items cs) (d :: ds) rest := by
  obtain ⟨r, found, rfl⟩ := first
  rw [items]
  split
  · rename_i nothing
    rw [found] at nothing
    cases nothing
  · rename_i read
    rw [found] at read
    cases read
    split
    · rename_i bracket
      rcases after with ⟨closed, rfl⟩ | ⟨next, comma, -⟩
      · cases bracket.symm.trans closed
        exact ⟨_, rfl, rfl⟩
      · cases bracket.symm.trans comma
    · rename_i comma
      rcases after with ⟨closed, -⟩ | ⟨next, same, others⟩
      · cases comma.symm.trans closed
      · cases comma.symm.trans same
        exact others.map _ _
    · rename_i closed_ comma_
      rcases after with ⟨closed, -⟩ | ⟨next, comma, -⟩
      · exact absurd closed (closed_ rest)
      · exact absurd comma (comma_ next)

/-- Items with commas between them are read up to the closing bracket. -/
theorem leaves_items {v : Json} {vs : List Json} (first : Written v d)
    (others : List.Forall₂ Written vs ds) (rest : List Char) :
    Leaves (items (v.render.toList ++ ((Json.renderItems vs).toList ++ ']' :: rest))) (d :: ds) rest := by
  induction others generalizing v d with
  | nil =>
    have read := first (']' :: rest) (ends_cons (by decide))
    rw [← (start_of_leaves read).1] at read
    rw [Json.renderItems, String.toList_empty, List.nil_append]
    exact leaves_item read (.inl ⟨skipGap_cons (by decide), rfl⟩)
  | @cons w e ws es next others ih =>
    have text : (Json.renderItems (w :: ws)).toList ++ ']' :: rest =
        ',' :: (w.render.toList ++ ((Json.renderItems ws).toList ++ ']' :: rest)) := by
      simp [Json.renderItems]
    have read := first ((Json.renderItems (w :: ws)).toList ++ ']' :: rest)
      (text ▸ ends_cons (by decide))
    rw [← (start_of_leaves read).1] at read
    refine leaves_item read (.inr ⟨_, ?_, ih next⟩)
    rw [text]
    exact skipGap_cons (by decide)

theorem leaves_array (start : skipGap cs = cs ∧ ∀ tail, cs ≠ ']' :: tail)
    (read : Leaves (items cs) ds rest) : Leaves (value ('[' :: cs)) (.arr ds) rest := by
  rw [value]
  split
  · rename_i empty
    rw [start.1] at empty
    exact absurd empty (start.2 _)
  · exact read.map _ _

theorem written_arr {vs : List Json} (each : List.Forall₂ Written vs ds) : Written (.arr vs) (.arr ds) := by
  intro rest _
  cases each with
  | nil =>
    have text : (Json.arr []).render.toList ++ rest = '[' :: ']' :: rest := by simp [Json.render]
    rw [text, value]
    split
    · rename_i closed
      rw [skipGap_cons (by decide)] at closed
      cases closed
      exact ⟨_, rfl, rfl⟩
    · rename_i open_
      exact absurd (skipGap_cons (by decide)) (open_ rest)
  | @cons v d vs ds first others =>
    have text : (Json.arr (v :: vs)).render.toList ++ rest =
        '[' :: (v.render.toList ++ ((Json.renderItems vs).toList ++ ']' :: rest)) := by
      simp [Json.render]
    have ends : Ends ((Json.renderItems vs).toList ++ ']' :: rest) := by
      cases vs with
      | nil => exact ends_cons (by decide)
      | cons w ws => simp [Json.renderItems, Ends]
    rw [text]
    exact leaves_array (start_of_leaves (first _ ends)) (leaves_items first others rest)

variable {ms : List (List Glyph × Document)} {inside behind : List Char}

theorem leaves_member (quote : skipGap cs = '"' :: inside) (key : Leaves (glyphs? inside) gs mid)
    (colon : skipGap mid = ':' :: behind) {left : List Char}
    (first : Leaves (value (skipGap behind)) d left)
    (after : (skipGap left = '\x7d' :: rest ∧ ms = []) ∨
      ∃ next, skipGap left = ',' :: next ∧ Leaves (members next) ms rest) :
    Leaves (members cs) ((gs, d) :: ms) rest := by
  obtain ⟨k, named, rfl⟩ := key
  obtain ⟨r, found, rfl⟩ := first
  rw [members]
  split
  · rename_i same
    rw [quote] at same
    cases same
    simp only [named]
    split
    · rename_i same
      rw [colon] at same
      cases same
      simp only [found]
      split
      · rename_i brace
        rcases after with ⟨closed, rfl⟩ | ⟨next, comma, -⟩
        · cases brace.symm.trans closed
          exact ⟨_, rfl, rfl⟩
        · cases brace.symm.trans comma
      · rename_i comma
        rcases after with ⟨closed, -⟩ | ⟨next, same, others⟩
        · cases comma.symm.trans closed
        · cases comma.symm.trans same
          exact others.map _ _
      · rename_i closed_ comma_
        rcases after with ⟨closed, -⟩ | ⟨next, comma, -⟩
        · exact absurd closed (closed_ rest)
        · exact absurd comma (comma_ next)
    · rename_i other
      exact absurd colon (other behind)
  · rename_i other
    exact absurd quote (other inside)

/-- A member is written as a document under its name. -/
def WrittenMember (m : String × Json) (e : List Glyph × Document) : Prop :=
  e.1 = Glyph.ofText m.1 ∧ Written m.2 e.2

theorem leaves_members {m : String × Json} {e : List Glyph × Document} {vs : List (String × Json)}
    (first : WrittenMember m e) (others : List.Forall₂ WrittenMember vs ms) (rest : List Char) :
    Leaves (members ((Json.renderString m.1).toList ++ ':' :: (m.2.render.toList ++
      ((Json.renderMembers vs).toList ++ '\x7d' :: rest)))) (e :: ms) rest := by
  induction others generalizing m e with
  | nil =>
    obtain ⟨name, v⟩ := m
    obtain ⟨gs, d⟩ := e
    obtain ⟨rfl, first⟩ := first
    have read := first ('\x7d' :: rest) (ends_cons (by decide))
    rw [← (start_of_leaves read).1] at read
    rw [Json.renderMembers, String.toList_empty, List.nil_append, renderString_append]
    exact leaves_member (skipGap_cons (by decide)) (leaves_inside name _) (skipGap_cons (by decide)) read
      (.inl ⟨skipGap_cons (by decide), rfl⟩)
  | @cons m' e' vs es next others ih =>
    obtain ⟨name, v⟩ := m
    obtain ⟨gs, d⟩ := e
    obtain ⟨rfl, first⟩ := first
    have text : (Json.renderMembers (m' :: vs)).toList ++ '\x7d' :: rest =
        ',' :: ((Json.renderString m'.1).toList ++ ':' :: (m'.2.render.toList ++
          ((Json.renderMembers vs).toList ++ '\x7d' :: rest))) := by
      obtain ⟨name', v'⟩ := m'
      simp [Json.renderMembers]
    have read := first ((Json.renderMembers (m' :: vs)).toList ++ '\x7d' :: rest)
      (text ▸ ends_cons (by decide))
    rw [← (start_of_leaves read).1] at read
    rw [renderString_append]
    refine leaves_member (skipGap_cons (by decide)) (leaves_inside name _) (skipGap_cons (by decide)) read
      (.inr ⟨_, ?_, ih next⟩)
    rw [text]
    exact skipGap_cons (by decide)

theorem written_obj {vs : List (String × Json)} {m : String × Json} {e : List Glyph × Document}
    (first : WrittenMember m e) (others : List.Forall₂ WrittenMember vs ms) :
    Written (.obj (m :: vs)) (.obj (e :: ms)) := by
  intro rest _
  have text : (Json.obj (m :: vs)).render.toList ++ rest =
      '\x7b' :: ((Json.renderString m.1).toList ++ ':' :: (m.2.render.toList ++
        ((Json.renderMembers vs).toList ++ '\x7d' :: rest))) := by
    obtain ⟨name, v⟩ := m
    simp [Json.render]
  have quote (cs : List Char) : skipGap ((Json.renderString m.1).toList ++ cs) =
      '"' :: (insideOf m.1 ++ '"' :: cs) := by
    rw [renderString_append]
    exact skipGap_cons (by decide)
  rw [text, value]
  split
  · rename_i empty
    rw [quote] at empty
    cases empty
  · exact (leaves_members first others rest).map _ _

/-- A value that is written as a document is read as that document. -/
theorem read?_of_written {v : Json} (written : Written v d) : read? v.render = some d := by
  have leaves := written [] nofun
  rw [List.append_nil] at leaves
  have start := (start_of_leaves leaves).1
  obtain ⟨r, found, left⟩ := leaves
  refine readList?_of_value start found ?_
  rw [left]
  rfl

end Document

end LiveSession
