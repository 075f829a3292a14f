import LiveSession.Text.Blank
import LiveSession.Time.Calendar

/-!
# Dates of cookies

The dates that an `Expires` attribute may hold: the form of mail headers,
`Thu, 01 Jan 1970 00:00:00 GMT`, and the dashed forms `Thu, 01-Jan-1970 00:00:00 GMT` and
`Thursday, 01-Jan-70 00:00:00 GMT`. A date is read as seconds from 1970-01-01 in UTC.
-/

namespace LiveSession.CookieDate

open Text

/-- A step of reading: what was read and what is left, or nothing. -/
abbrev Step (α : Type) := List Char → Option (α × List Char)

def skipBlanks (cs : List Char) : List Char :=
  cs.dropWhile isBlank

def blanks : Step Unit
  | c :: cs => if isBlank c then some ((), skipBlanks cs) else none
  | [] => none

def exactly : List Char → Step Unit
  | [], cs => some ((), cs)
  | w :: ws, c :: cs => if w = c then exactly ws cs else none
  | _ :: _, [] => none

/-- A fixed text in any ASCII case, given in lower case. -/
def anyCase : List Char → Step Unit
  | [], cs => some ((), cs)
  | w :: ws, c :: cs => if w = c.toLower then anyCase ws cs else none
  | _ :: _, [] => none

/-- The first of some words, in any case, that a text starts with, as its place among them. -/
def oneOf (words : List String) : Step Nat :=
  go 0 words
where
  go (i : Nat) : List String → Step Nat
    | [], _ => none
    | w :: ws, cs =>
      match anyCase w.toList cs with
      | some ((), rest) => some (i, rest)
      | none => go (i + 1) ws cs

/-- From `least` to `most` digits as a number. -/
def number (least most : Nat) : Step Nat := fun cs =>
  let ds := (cs.take most).takeWhile Char.isDigit
  if ds.length < least then none
  else some (ds.foldl (fun n d => n * 10 + (d.toNat - '0'.toNat)) 0, cs.drop ds.length)

def weekdays : List String := ["mon", "tue", "wed", "thu", "fri", "sat", "sun"]

/-- What the long names of the weekdays add to the short ones. -/
def weekdayEndings : List String := ["day", "sday", "nesday", "rsday", "day", "urday", "day"]

def months : List String :=
  ["jan", "feb", "mar", "apr", "may", "jun", "jul", "aug", "sep", "oct", "nov", "dec"]

/-- A weekday by its short name, or by its long one. -/
def longWeekday : Step Weekday := fun cs => do
  let (day, rest) ← oneOf weekdays cs
  match (weekdayEndings[day]?).bind fun w => anyCase w.toList rest with
  | some ((), rest') => return (day, rest')
  | none => return (day, rest)

def month : Step Nat := fun cs =>
  (oneOf months cs).map fun p => (p.1 + 1, p.2)

/-- The parts of a date, before it is checked that there is such a date. The offset is how far the
clock is ahead of UTC, in seconds. -/
structure Parts where
  weekday : Option Weekday
  year : Int
  month : Nat
  day : Nat
  hour : Nat
  minute : Nat
  second : Nat
  offset : Int := 0

/-- The moment that the parts name, in seconds; `none` if there is no such moment, or it is not on
that weekday. A minute may have a sixty-first second. -/
def Parts.moment? (p : Parts) : Option Int :=
  let n := Calendar.dayNumber p.year p.month p.day
  if Calendar.isDate p.year p.month p.day ∧ p.hour < 24 ∧ p.minute < 60 ∧ p.second ≤ 60 ∧
      p.offset.natAbs < 86400 ∧ (∀ w ∈ p.weekday, w = Calendar.weekday n) then
    some (n * 86400 + (p.hour * 3600 + p.minute * 60 + p.second : Nat) - p.offset)
  else none

/-! ### The form of mail headers -/

/-- A year of a mail header: two digits below 50 are after 2000, other two and all three digits
count from 1900. -/
def mailYear (digits value : Nat) : Nat :=
  if digits = 2 ∧ value < 50 then value + 2000
  else if digits = 2 ∨ digits = 3 then value + 1900
  else value

/-- Time zones that have a name, with their offset in hours. -/
def zones : List (String × Int) :=
  [("gmt", 0), ("ut", 0), ("z", 0), ("edt", -4), ("est", -5), ("cdt", -5), ("cst", -6), ("mdt", -6),
    ("mst", -7), ("pdt", -7), ("pst", -8)]

/-- A single letter other than `j` is a military zone, which counts as UTC. -/
def isMilitary (name : List Char) : Bool :=
  match name with
  | [c] => c != 'j'
  | _ => false

/-- A time zone by name or as a sign with hours and minutes, in seconds. -/
def zone : Step Int := fun cs =>
  let letters := cs.takeWhile Char.isAlpha
  if letters.isEmpty then do
    let (sign, rest) ← match cs with
      | '+' :: rest => some (1, rest)
      | '-' :: rest => some (-1, rest)
      | _ => none
    let (hours, rest) ← number 2 2 rest
    let (minutes, rest) ← number 2 2 rest
    if minutes < 60 then return (sign * (hours * 3600 + minutes * 60 : Nat), rest) else none
  else
    let rest := cs.drop letters.length
    let name := letters.map Char.toLower
    match zones.find? fun z => z.1.toList = name with
    | some (_, hours) => some (hours * 3600, rest)
    | none => if isMilitary name then some (0, rest) else none

/-- The rest of a comment inside `depth + 1` parentheses; a backslash shields the next character. -/
def closeComment : Nat → List Char → Option (List Char)
  | _, [] => none
  | depth, '\\' :: _ :: cs => closeComment depth cs
  | depth, '(' :: cs => closeComment (depth + 1) cs
  | 0, ')' :: cs => some cs
  | depth + 1, ')' :: cs => closeComment depth cs
  | depth, _ :: cs => closeComment depth cs

/-- What is left of `cs` after the comments at its start, of which there are at most `n`. -/
def skipComments : Nat → List Char → List Char
  | 0, cs => cs
  | n + 1, cs =>
    match skipBlanks cs with
    | '(' :: rest =>
      match closeComment 0 rest with
      | some rest' => skipComments n rest'
      | none => cs
    | _ => cs

def mailWeekday (cs : List Char) : Option (Option Weekday × List Char) :=
  match oneOf weekdays cs with
  | none => some (none, cs)
  | some (w, ',' :: rest) => some (some w, rest)
  | some _ => none

def mailSeconds (cs : List Char) : Option (Nat × List Char) :=
  match skipBlanks cs with
  | ':' :: rest => number 2 2 rest
  | _ => some (0, cs)

def mail? (cs : List Char) : Option Int := do
  let (weekday, cs) ← mailWeekday (skipBlanks cs)
  let (day, cs) ← number 1 2 (skipBlanks cs)
  let ((), cs) ← blanks cs
  let (month, cs) ← month cs
  let ((), cs) ← blanks cs
  let yearDigits := (cs.takeWhile Char.isDigit).length
  let (year, cs) ← number 2 cs.length cs
  let ((), cs) ← blanks cs
  let (hour, cs) ← number 2 2 cs
  let ((), cs) ← exactly [':'] (skipBlanks cs)
  let (minute, cs) ← number 2 2 (skipBlanks cs)
  let (second, cs) ← mailSeconds cs
  let ((), cs) ← blanks cs
  let (offset, cs) ← zone cs
  if skipComments cs.length cs = [] then
    let year := mailYear yearDigits year
    Parts.moment? { weekday, year, month, day, hour, minute, second, offset }
  else none

/-! ### The dashed forms -/

/-- A number of one or two digits, after white space. -/
def short : Step Nat := fun cs =>
  number 1 2 (skipBlanks cs)

/-- A year of up to four digits, or of any number of digits after a sign. -/
def signedYear : Step Int := fun cs =>
  match skipBlanks cs with
  | '-' :: rest => (number 1 rest.length rest).map fun p => (-p.1, p.2)
  | '+' :: rest => (number 1 rest.length rest).map fun p => (p.1, p.2)
  | rest => (number 1 4 rest).map fun p => (p.1, p.2)

/-- A year of one or two digits, between 1970 and 2069. -/
def shortYear : Step Int := fun cs =>
  (short cs).map fun p => ((if p.1 < 70 then p.1 + 2000 else p.1 + 1900 : Nat), p.2)

/-- A date with dashes, whose weekday and year are read by the given steps. -/
def dashed? (weekday : Step Weekday) (year : Step Int) (cs : List Char) : Option Int := do
  let (w, cs) ← weekday cs
  let ((), cs) ← exactly [','] cs
  let (day, cs) ← short (skipBlanks cs)
  let ((), cs) ← exactly ['-'] cs
  let (month, cs) ← month cs
  let ((), cs) ← exactly ['-'] cs
  let (year, cs) ← year cs
  let (hour, cs) ← short (skipBlanks cs)
  let ((), cs) ← exactly [':'] cs
  let (minute, cs) ← short cs
  let ((), cs) ← exactly [':'] cs
  let (second, cs) ← short cs
  let ((), cs) ← exactly ['G', 'M', 'T'] (skipBlanks cs)
  if cs = [] then
    Parts.moment? { weekday := some w, year, month, day, hour, minute, second }
  else none

/-- The moment that a date names, in seconds from 1970-01-01 in UTC. -/
def read? (cs : List Char) : Option Int :=
  mail? cs <|> dashed? (oneOf weekdays) signedYear cs <|> dashed? longWeekday shortYear cs

end LiveSession.CookieDate
