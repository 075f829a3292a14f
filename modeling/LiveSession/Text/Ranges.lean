/-!
# Sets of code points

A set of code points is an ascending array of closed ranges; `Ranges.contains` finds a code point
by bisection.
-/

namespace LiveSession.Text

/-- Closed ranges `(first, last)` of code points, ascending and apart. -/
abbrev Ranges := Array (Nat × Nat)

namespace Ranges

/-- Whether one of the ranges at the places from `lo` to below `hi` holds `n`. -/
def bisect (rs : Ranges) (n lo hi : Nat) : Bool :=
  if lo < hi then
    let mid := (lo + hi) / 2
    match rs[mid]? with
    | none => false
    | some (first, last) =>
      if n < first then bisect rs n lo mid
      else if last < n then bisect rs n (mid + 1) hi
      else true
  else false
termination_by hi - lo

def contains (rs : Ranges) (n : Nat) : Bool :=
  bisect rs n 0 rs.size

end Ranges

end LiveSession.Text
