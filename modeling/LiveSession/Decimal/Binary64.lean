/-!
# Binary floating point in 64 bits

A finite number of the binary64 format is a sign, a mantissa below `2 ^ 53` and an exponent of two;
`Canonical` picks one such form for each value. Products, quotients and conversions are exact
quotients of natural numbers, rounded once, to the nearest value and a tie to the even mantissa.
-/

namespace LiveSession

/-- Mantissas are below this, `2 ^ 53`. -/
def Binary64.mantissaLimit : Nat := 0x20000000000000

/-- Mantissas from this on, `2 ^ 52`, are full. -/
def Binary64.mantissaFull : Nat := 0x10000000000000

/-- The one form of each magnitude: the mantissa is full unless the exponent is the least. -/
def Binary64.Canonical (mantissa : Nat) (exponent : Int) : Prop :=
  mantissa < mantissaLimit ∧ -1074 ≤ exponent ∧ exponent ≤ 971 ∧
    (mantissa < mantissaFull → exponent = -1074)

instance (m : Nat) (e : Int) : Decidable (Binary64.Canonical m e) :=
  inferInstanceAs (Decidable (_ ∧ _ ∧ _ ∧ _))

/-- The finite number `± mantissa * 2 ^ exponent`. -/
structure Binary64 where
  negative : Bool
  mantissa : Nat
  exponent : Int
  canonical : Binary64.Canonical mantissa exponent
  deriving DecidableEq, Repr

namespace Binary64

def zero (negative : Bool) : Binary64 :=
  ⟨negative, 0, -1074, by decide⟩

def isZero (x : Binary64) : Bool :=
  x.mantissa == 0

/-- `num / den` rounded to a natural number, a half to the even neighbour. -/
def roundDiv (num den : Nat) : Nat :=
  let quotient := num / den
  let twice := 2 * (num % den)
  if twice < den then quotient
  else if den < twice then quotient + 1
  else quotient + quotient % 2

/-- The larger `e` with `2 ^ e ≤ num / den`, or one less, as `num` and `den` have that many bits. -/
def exponentBelow (num den : Nat) : Int :=
  let guess := (num.log2 : Int) - den.log2
  let fits :=
    if 0 ≤ guess then den * Nat.pow 2 guess.toNat ≤ num
    else den ≤ num * Nat.pow 2 (-guess).toNat
  if fits then guess else guess - 1

/-- The magnitude `num / den` rounded to binary64; `none` if it is too large. -/
def ofRatio? (negative : Bool) (num den : Nat) : Option Binary64 :=
  if num = 0 then some (zero negative)
  else
    let exponent := max (-1074) (exponentBelow num den - 52)
    let mantissa :=
      if 0 ≤ exponent then roundDiv num (den * Nat.pow 2 exponent.toNat)
      else roundDiv (num * Nat.pow 2 (-exponent).toNat) den
    let full := mantissa = mantissaLimit
    let m := if full then mantissaFull else mantissa
    let e := if full then exponent + 1 else exponent
    if h : Canonical m e then some ⟨negative, m, e, h⟩ else none

/-- The magnitude as a numerator over a power of two. -/
def ratio (x : Binary64) : Nat × Nat :=
  (x.mantissa * Nat.pow 2 x.exponent.toNat, Nat.pow 2 (-x.exponent).toNat)

/-- The product of two magnitudes with the sign of the first. -/
def scaleUp? (x y : Binary64) : Option Binary64 :=
  ofRatio? x.negative (x.ratio.1 * y.ratio.1) (x.ratio.2 * y.ratio.2)

/-- The quotient of two magnitudes with the sign of the first; `y` is not zero. -/
def scaleDown? (x y : Binary64) : Option Binary64 :=
  ofRatio? x.negative (x.ratio.1 * y.ratio.2) (x.ratio.2 * y.ratio.1)

/-- The nearest number to `10 ^ n`; `none` from `10 ^ 309` on. -/
def powTen? (n : Nat) : Option Binary64 :=
  ofRatio? false (Nat.pow 10 n) 1

/-- Equality of values: the two zeros are equal. -/
def sameValue (x y : Binary64) : Bool :=
  x.mantissa == y.mantissa && x.exponent == y.exponent && (x.isZero || x.negative == y.negative)

end Binary64

end LiveSession
