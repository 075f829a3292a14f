/-!
# Calendar dates

The Gregorian calendar carried on before its introduction: the number of a day counted from
1970-01-01, its weekday, and moments as seconds from the start of that day in UTC.
-/

namespace LiveSession

/-- The days of the week from Monday on are numbered from 0. -/
abbrev Weekday := Nat

namespace Calendar

/-- Every fourth year, but of the full centuries only every fourth. -/
def isLeap (year : Int) : Bool :=
  year % 4 == 0 && (year % 100 != 0 || year % 400 == 0)

def monthLength (year : Int) (month : Nat) : Nat :=
  if month = 2 then (if isLeap year then 29 else 28)
  else if month = 4 ∨ month = 6 ∨ month = 9 ∨ month = 11 then 30
  else 31

/-- The days of the year before the first of a month. -/
def daysBefore (year : Int) : Nat → Nat
  | 0 => 0
  | m + 1 => daysBefore year m + (if m = 0 then 0 else monthLength year m)

/-- The days from 0001-01-01 to the first of January of a year. -/
def daysBeforeYear (year : Int) : Int :=
  let y := year - 1
  y * 365 + y.fdiv 4 - y.fdiv 100 + y.fdiv 400

/-- The day number of 1970-01-01 counted from 0001-01-01. -/
def epoch : Int := 719162

/-- The days from 1970-01-01 to a date. -/
def dayNumber (year : Int) (month day : Nat) : Int :=
  daysBeforeYear year + daysBefore year month + (day - 1 : Nat) - epoch

def weekday (n : Int) : Weekday :=
  ((n + 3) % 7).toNat

/-- The first and the last year that dates are known for. -/
def yearRange : Int × Int := (-262143, 262142)

def isDate (year : Int) (month day : Nat) : Bool :=
  yearRange.1 ≤ year && year ≤ yearRange.2 && 1 ≤ month && month ≤ 12 && 1 ≤ day &&
    day ≤ monthLength year month

end Calendar

end LiveSession
