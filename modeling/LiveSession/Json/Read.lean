import LiveSession.Json.Document

/-!
# Reading JSON texts

Each reader takes a text and gives what it read with the rest, which is shorter than the text, so
that reading ends. `Document.read?` reads one document with blanks around it, and `Json.parse?` its
value.
-/

namespace LiveSession

/-- The end of a text `cs` from which something has been read. -/
abbrev Rest (cs : List Char) := { r : List Char // r.length < cs.length }

def Rest.widen {cs ds : List Char} (r : Rest cs) (h : cs.length ≤ ds.length) : Rest ds :=
  ⟨r.1, Nat.lt_of_lt_of_le r.2 h⟩

namespace Document

/-- The characters allowed between the parts of a document. -/
def isGap (c : Char) : Bool :=
  c == ' ' || c == '\n' || c == '\t' || c == '\r'

def skipGap (cs : List Char) : List Char :=
  cs.dropWhile isGap

theorem length_skipGap_le (cs : List Char) : (skipGap cs).length ≤ cs.length :=
  (List.dropWhile_suffix isGap).length_le

/-- What is left of `cs` after the word `word`. -/
def afterWord? : List Char → List Char → Option (List Char)
  | [], cs => some cs
  | w :: ws, c :: cs => if w = c then afterWord? ws cs else none
  | _ :: _, [] => none

theorem length_of_afterWord? {ws cs r : List Char} (h : afterWord? ws cs = some r) :
    r.length + ws.length = cs.length := by
  induction ws generalizing cs with
  | nil => simp_all [afterWord?]
  | cons w ws ih =>
    cases cs with
    | nil => simp [afterWord?] at h
    | cons c cs =>
      simp only [afterWord?] at h
      split at h
      · simp only [List.length_cons, ← ih h]; omega
      · simp at h

/-- A fixed word that stands for the document `d`. -/
def word? (word : List Char) (d : Document) (cs : List Char) : Option (Document × Rest cs) :=
  match h : afterWord? word cs with
  | none => none
  | some r =>
    if hw : 0 < word.length then some (d, ⟨r, by have := length_of_afterWord? h; omega⟩) else none

def hexValue? (c : Char) : Option Nat :=
  if '0' ≤ c ∧ c ≤ '9' then some (c.toNat - '0'.toNat)
  else if 'a' ≤ c ∧ c ≤ 'f' then some (c.toNat - 'a'.toNat + 10)
  else if 'A' ≤ c ∧ c ≤ 'F' then some (c.toNat - 'A'.toNat + 10)
  else none

/-- The character that a one-letter escape stands for. -/
def escaped? (c : Char) : Option Char :=
  if c = '"' ∨ c = '\\' ∨ c = '/' then some c
  else if c = 'b' then some '\x08'
  else if c = 'f' then some '\x0c'
  else if c = 'n' then some '\n'
  else if c = 'r' then some '\r'
  else if c = 't' then some '\t'
  else none

/-- The inside of a string up to its closing quote, and what follows the quote. -/
def glyphs? : (cs : List Char) → Option (List Glyph × Rest cs)
  | [] => none
  | '"' :: rest => some ([], ⟨rest, by simp⟩)
  | '\\' :: 'u' :: a :: b :: c :: d :: rest =>
    match hexValue? a, hexValue? b, hexValue? c, hexValue? d with
    | some a, some b, some c, some d =>
      (glyphs? rest).map fun p =>
        (.unit (((a * 16 + b) * 16 + c) * 16 + d) :: p.1, p.2.widen (by simp; omega))
    | _, _, _, _ => none
  | '\\' :: c :: rest =>
    match escaped? c with
    | some e => (glyphs? rest).map fun p => (.plain e :: p.1, p.2.widen (by simp; omega))
    | none => none
  | c :: rest =>
    if c.toNat < 0x20 ∨ c = '\\' then none
    else (glyphs? rest).map fun p => (.plain c :: p.1, p.2.widen (by simp))

def spanDigits (cs : List Char) : List Nat × List Char :=
  ((cs.takeWhile Char.isDigit).map fun c => c.toNat - '0'.toNat, cs.dropWhile Char.isDigit)

theorem length_spanDigits (cs : List Char) :
    (spanDigits cs).1.length + (spanDigits cs).2.length = cs.length := by
  simp only [spanDigits, List.length_map]
  rw [← List.length_append, List.takeWhile_append_dropWhile]

/-- The digits before the point: one zero, or any that do not start with zero. -/
def whole? (cs : List Char) : Option (List Nat × Rest cs) :=
  match h : spanDigits cs with
  | ([], _) => none
  | (d :: ds, rest) =>
    if d = 0 ∧ ds ≠ [] then none
    else some (d :: ds, ⟨rest, by have := length_spanDigits cs; simp [h] at this; omega⟩)

/-- The digits after a point, if there is one; at least one digit must follow it. -/
def fraction? (cs : List Char) :
    Option (Option (List Nat) × { r : List Char // r.length ≤ cs.length }) :=
  match cs with
  | '.' :: rest =>
    match h : spanDigits rest with
    | ([], _) => none
    | (ds, rest') =>
      some (some ds, ⟨rest', by have := length_spanDigits rest; simp [h] at this; simp; omega⟩)
  | other => some (none, ⟨other, Nat.le_refl _⟩)

def exponentSign (cs : List Char) : Bool × List Char :=
  match cs with
  | '+' :: rest => (false, rest)
  | '-' :: rest => (true, rest)
  | _ => (false, cs)

theorem length_exponentSign_le (cs : List Char) : (exponentSign cs).2.length ≤ cs.length := by
  unfold exponentSign; split <;> simp

def exponent? (cs : List Char) :
    Option (Option (Bool × List Nat) × { r : List Char // r.length ≤ cs.length }) :=
  match cs with
  | [] => some (none, ⟨[], Nat.le_refl _⟩)
  | c :: rest =>
    if c = 'e' ∨ c = 'E' then
      match h : spanDigits (exponentSign rest).2 with
      | ([], _) => none
      | (ds, rest') =>
        some (some ((exponentSign rest).1, ds), ⟨rest', by
          have := length_spanDigits (exponentSign rest).2
          have := length_exponentSign_le rest
          simp_all; omega⟩)
    else some (none, ⟨c :: rest, Nat.le_refl _⟩)

def magnitude? (negative : Bool) (cs : List Char) : Option (Document × Rest cs) :=
  match whole? cs with
  | none => none
  | some (whole, r) =>
    match fraction? r.1 with
    | none => none
    | some (fraction, r') =>
      match exponent? r'.1 with
      | none => none
      | some (exponent, r'') =>
        some (.number ⟨negative, whole, fraction, exponent⟩,
          ⟨r''.1, Nat.lt_of_le_of_lt (Nat.le_trans r''.2 r'.2) r.2⟩)

mutual

/-- One document, which starts at the first character. -/
def value (cs : List Char) : Option (Document × Rest cs) :=
  match cs with
  | [] => none
  | '"' :: rest => (glyphs? rest).map fun p => (.str p.1, p.2.widen (by simp))
  | '[' :: rest =>
    match h : skipGap rest with
    | ']' :: rest' =>
      some (.arr [], ⟨rest', by
        have := length_skipGap_le rest; simp [h] at this; simp; omega⟩)
    | _ => (items rest).map fun p => (.arr p.1, p.2.widen (by simp))
  | '\x7b' :: rest =>
    match h : skipGap rest with
    | '\x7d' :: rest' =>
      some (.obj [], ⟨rest', by
        have := length_skipGap_le rest; simp [h] at this; simp; omega⟩)
    | _ => (members rest).map fun p => (.obj p.1, p.2.widen (by simp))
  | '-' :: rest => (magnitude? true rest).map fun p => (p.1, p.2.widen (by simp))
  | 'n' :: rest => word? "null".toList .null ('n' :: rest)
  | 't' :: rest => word? "true".toList (.bool true) ('t' :: rest)
  | 'f' :: rest => word? "false".toList (.bool false) ('f' :: rest)
  | c :: rest => magnitude? false (c :: rest)
termination_by 2 * cs.length

/-- The items of an array up to its closing bracket; there is at least one. -/
def items (cs : List Char) : Option (List Document × Rest cs) :=
  have hs := length_skipGap_le cs
  match value (skipGap cs) with
  | none => none
  | some (d, r) =>
    match h : skipGap r.1 with
    | ']' :: rest =>
      some ([d], ⟨rest, by
        have := length_skipGap_le r.1; have := r.2; simp [h] at *; omega⟩)
    | ',' :: rest =>
      have hr : rest.length < cs.length := by
        have := length_skipGap_le r.1; have := r.2; simp [h] at *; omega
      (items rest).map fun p => (d :: p.1, p.2.widen (by omega))
    | _ => none
termination_by 2 * cs.length + 1

/-- The members of an object up to its closing brace; there is at least one. -/
def members (cs : List Char) : Option (List (List Glyph × Document) × Rest cs) :=
  match h : skipGap cs with
  | '"' :: rest =>
    have hs : rest.length < cs.length := by
      have := length_skipGap_le cs; simp [h] at this; omega
    match glyphs? rest with
    | none => none
    | some (key, r) =>
      match h : skipGap r.1 with
      | ':' :: rest' =>
        have hr : rest'.length < cs.length := by
          have := length_skipGap_le r.1; have := r.2; simp [h] at *; omega
        have hv := length_skipGap_le rest'
        match value (skipGap rest') with
        | none => none
        | some (d, r') =>
          match h : skipGap r'.1 with
          | '\x7d' :: rest'' =>
            some ([(key, d)], ⟨rest'', by
              have := length_skipGap_le r'.1; have := r'.2; simp [h] at *; omega⟩)
          | ',' :: rest'' =>
            have hr : rest''.length < cs.length := by
              have := length_skipGap_le r'.1; have := r'.2; simp [h] at *; omega
            (members rest'').map fun p => ((key, d) :: p.1, p.2.widen (by omega))
          | _ => none
      | _ => none
  | _ => none
termination_by 2 * cs.length + 1

end

def readList? (cs : List Char) : Option Document :=
  match value (skipGap cs) with
  | some (d, r) => if skipGap r.1 = [] then some d else none
  | none => none

/-- The document that a whole text is, with blanks around it. -/
def read? (s : String) : Option Document :=
  readList? s.toList

end Document

def Json.parse? (s : String) : Option Json :=
  (Document.read? s).bind (Document.value? Document.maxDepth)

end LiveSession
