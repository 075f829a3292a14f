import LiveSession.Text.Blank
import LiveSession.Text.Percent

/-!
# Tables of code points

A table over code points is written as text: rows with a space between, each in hexadecimal as
`first-last/step=v.w`. Such a row holds `first`, `first + step`, … up to `last`, and gives the
values `v` and `w` to its first code point. A part that is left out is a range of one, a step of
one, no values. `Rows.find?` finds the row of a code point by bisection.
-/

namespace LiveSession.Text

/-- The code points `first`, `first + step`, … up to `last`, and the values given to the first. -/
structure Row where
  first : Nat
  last : Nat
  step : Nat
  values : List Nat
  deriving DecidableEq, Repr

namespace Row

def number (cs : List Char) : Nat :=
  cs.foldl (fun n c => n * 16 + (Percent.hexValue? c).getD 0) 0

def readValues (cs : List Char) : List Nat :=
  if cs = [] then [] else (splitAll '.' cs).map number

def read (cs : List Char) : Row :=
  let (codes, values) := (cut? '=' cs).getD (cs, [])
  let (range, step) := (cut? '/' codes).getD (codes, ['1'])
  let (first, last) := (cut? '-' range).getD (range, range)
  ⟨number first, number last, number step, readValues values⟩

def holds (r : Row) (n : Nat) : Bool :=
  r.first ≤ n && n ≤ r.last && (n - r.first) % r.step == 0

/-- The values of the code point `n` of a row: they grow with the code point. -/
def shifted (r : Row) (n : Nat) : List Nat :=
  r.values.map (· + (n - r.first))

end Row

/-- Rows whose ranges ascend and do not overlap. -/
abbrev Rows := Array Row

namespace Rows

def read (lines : List String) : Rows :=
  (lines.flatMap fun line => (splitAll ' ' line.toList).map Row.read).toArray

/-- The row that holds the code point `n`, among those at the places from `lo` to below `hi`. -/
def bisect (rows : Rows) (n lo hi : Nat) : Option Row :=
  if lo < hi then
    let mid := (lo + hi) / 2
    match rows[mid]? with
    | none => none
    | some row =>
      if n < row.first then bisect rows n lo mid
      else if row.last < n then bisect rows n (mid + 1) hi
      else if row.holds n then some row else none
  else none
termination_by hi - lo

def find? (rows : Rows) (n : Nat) : Option Row :=
  bisect rows n 0 rows.size

def contains (rows : Rows) (c : Char) : Bool :=
  (rows.find? c.toNat).isSome

end Rows

end LiveSession.Text
