import LiveSession.Decimal.Binary64

/-!
# The shortest decimal of a binary number

`shortest` finds the decimal with the fewest digits that rounds to a given binary64 number, the
nearest one where several have as few. `Binary64.text` writes it, positionally near one and with an
exponent elsewhere.
-/

namespace LiveSession

/-- The number `digits * 10 ^ exponent`. -/
structure Decimal where
  digits : Nat
  exponent : Int
  deriving DecidableEq, Repr

namespace Decimal

/-- The numbers that round to a binary one, in units of a quarter of its last place, all over
`10 ^ k`: the number itself is `value / unit`, and what lies at most `above` over it or `below`
under it rounds to it; the ends belong to the interval iff `closed`. -/
structure Grid where
  value : Nat
  unit : Nat
  above : Nat
  below : Nat
  closed : Bool

/-- The interval of `x` measured in steps of `10 ^ k`. -/
def gridOf (x : Binary64) (k : Int) : Grid :=
  let up := Nat.pow 2 x.exponent.toNat * Nat.pow 10 (-k).toNat
  { value := 4 * x.mantissa * up
    unit := 4 * Nat.pow 2 (-x.exponent).toNat * Nat.pow 10 k.toNat
    above := 2 * up
    below := if x.mantissa = Binary64.mantissaFull ∧ -1074 < x.exponent then up else 2 * up
    closed := x.mantissa % 2 == 0 }

def Grid.holds (g : Grid) (d : Nat) : Bool :=
  let p := d * g.unit
  let low := g.value - g.below
  let high := g.value + g.above
  if g.closed then low ≤ p && p ≤ high else low < p && p < high

/-- The point of the grid in the interval that is nearest to the number, if there is one; of two
equally near ones the even. -/
def Grid.nearest? (g : Grid) : Option Nat :=
  let d := g.value / g.unit
  let twice := 2 * (g.value % g.unit)
  let upper := g.unit < twice || (twice == g.unit && d % 2 == 1)
  match g.holds d, g.holds (d + 1) with
  | true, true => some (if upper then d + 1 else d)
  | true, false => some d
  | false, true => some (d + 1)
  | false, false => none

/-- The first grid from `10 ^ k` down, of `n` many, that has a point in the interval of `x`. -/
def search (x : Binary64) : Nat → Int → Decimal
  | 0, k => ⟨x.mantissa, k⟩
  | n + 1, k =>
    match (gridOf x k).nearest? with
    | some d => ⟨d, k⟩
    | none => search x n (k - 1)

/-- A power of ten above the number, by its binary length. -/
def startExponent (x : Binary64) : Int :=
  (((x.mantissa.log2 : Int) + x.exponent + 1) * 30103).fdiv 100000 + 2

/-- The decimal of fewest digits that rounds to `x`, which is not zero. Twenty-three grids suffice:
seventeen digits always do, and the start is less than six powers too high. -/
def shortest (x : Binary64) : Decimal :=
  search x 23 (startExponent x)

end Decimal

namespace Binary64

/-- Where the exponent form takes over: positional text runs from `10 ^ leastPositional` to below
`10 ^ positionalLimit`. -/
def leastPositional : Int := -5

/-- See `leastPositional`. -/
def positionalLimit : Int := 16

/-- The digits `digits` with a point so that the first has the weight `10 ^ lead`. -/
def positional (digits : List Char) (lead : Int) : List Char :=
  if lead < 0 then '0' :: '.' :: (List.replicate (-lead - 1).toNat '0' ++ digits)
  else
    let whole := lead.toNat + 1
    if digits.length ≤ whole then digits ++ List.replicate (whole - digits.length) '0' ++ ['.', '0']
    else digits.take whole ++ '.' :: digits.drop whole

/-- The digits with a point after the first, and the exponent with its sign. -/
def scientific (digits : List Char) (lead : Int) : List Char :=
  let sign := if lead < 0 then '-' else '+'
  let fraction := match digits.drop 1 with
    | [] => []
    | rest => '.' :: rest
  digits.take 1 ++ fraction ++ 'e' :: sign :: Nat.toDigits 10 lead.natAbs

/-- The shortest text that reads back as `x`: with `.0` if whole, with an exponent far from one. -/
def text (x : Binary64) : String :=
  let sign := if x.negative then ['-'] else []
  if x.isZero then String.ofList (sign ++ ['0', '.', '0'])
  else
    let d := Decimal.shortest x
    let digits := Nat.toDigits 10 d.digits
    let lead := d.exponent + digits.length - 1
    let body :=
      if leastPositional ≤ lead ∧ lead < positionalLimit then positional digits lead
      else scientific digits lead
    String.ofList (sign ++ body)

end Binary64

end LiveSession
