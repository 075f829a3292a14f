import LiveSession.Json.Basic

/-!
# JSON documents

`Document.read` reads a JSON text into a tree that keeps what was written: repeated members, the
digits of numbers, escaped halves of characters. `Document.value?` is the value that a document
stands for, and refuses what has none: an unpaired half, a number too large, deep nesting.
`Json.parse?` does both.
-/

namespace LiveSession

/-- A number as written: sign, digits before the point, digits after it, and the exponent with its
sign; without point and exponent it is a whole number. -/
structure Literal where
  negative : Bool
  whole : List Nat
  fraction : Option (List Nat)
  exponent : Option (Bool × List Nat)
  deriving DecidableEq, Repr

/-- A character of a JSON string: itself, or a 16-bit unit written as `\uXXXX`. -/
inductive Glyph where
  | plain (c : Char)
  | unit (n : Nat)
  deriving DecidableEq, Repr

inductive Document where
  | null
  | bool (b : Bool)
  | number (n : Literal)
  | str (s : List Glyph)
  | arr (items : List Document)
  | obj (members : List (List Glyph × Document))
  deriving Inhabited, Repr

/-! ### Strings -/

/-- The text of a string; `none` if a unit is an unpaired half of a character. -/
def Glyph.text? : List Glyph → Option (List Char)
  | [] => some []
  | .plain c :: rest => (text? rest).map (c :: ·)
  | .unit n :: rest =>
    if 0xDC00 ≤ n ∧ n < 0xE000 then none
    else if 0xD800 ≤ n ∧ n < 0xDC00 then
      match rest with
      | .unit m :: rest' =>
        if 0xDC00 ≤ m ∧ m < 0xE000 then
          (text? rest').map (Char.ofNat (0x10000 + (n - 0xD800) * 0x400 + (m - 0xDC00)) :: ·)
        else none
      | _ => none
    else (text? rest).map (Char.ofNat n :: ·)

def Glyph.string? (gs : List Glyph) : Option String :=
  (text? gs).map String.ofList

/-! ### Numbers -/

namespace Literal

/-- The leading digits that fit into 64 bits after `acc`, and the count of the digits left. -/
def accumulate (acc : Nat) : List Nat → Nat × Nat
  | [] => (acc, 0)
  | d :: ds =>
    if acc * 10 + d < Json.wordLimit then accumulate (acc * 10 + d) ds else (acc, ds.length + 1)

/-- The exponents that are counted are below this, `2 ^ 31`. -/
def exponentLimit : Nat := 0x80000000

def digitsValue (ds : List Nat) : Nat :=
  ds.foldl (fun n d => n * 10 + d) 0

/-- `x * 10 ^ e`, by one rounded product or quotient per power of ten that binary64 can hold;
`none` if it becomes too large. A power beyond them divides in steps of `10 ^ 308`. -/
def scale? (x : Binary64) : Nat → Int → Option Binary64
  | 0, _ => some x
  | steps + 1, e =>
    if e.natAbs ≤ 308 then
      (Binary64.powTen? e.natAbs).bind fun p => if 0 ≤ e then x.scaleUp? p else x.scaleDown? p
    else if x.isZero then some x
    else if 0 ≤ e then none
    else
      (Binary64.powTen? 308).bind fun p => (x.scaleDown? p).bind fun y => scale? y steps (e + 308)

/-- The floating-point value: the digits that fit into 64 bits, rounded, then scaled by the power of
ten that is left. -/
def float? (n : Literal) : Option Binary64 :=
  let (acc, dropped) := accumulate 0 n.whole
  let fraction := n.fraction.getD []
  let (significand, unread) := accumulate acc fraction
  let shift : Int := dropped - (fraction.length - unread : Nat)
  let scaled (e : Int) :=
    (Binary64.ofRatio? n.negative significand 1).bind fun x => scale? x 4 e
  match n.exponent with
  | none => scaled shift
  | some (down, ds) =>
    let e := digitsValue ds
    if exponentLimit ≤ e then
      if significand = 0 ∨ down then some (.zero n.negative) else none
    else scaled (if down then shift - e else shift + e)

/-- The value of a number: whole numbers that fit into 64 bits are exact, `-0` is not whole. -/
def value? (n : Literal) : Option Json :=
  match n.fraction, n.exponent with
  | none, none =>
    let m := digitsValue n.whole
    if n.negative then
      if 0 < m ∧ m ≤ Json.signedLimit then some (.int (-m)) else n.float?.map .float
    else if m < Json.wordLimit then some (.int m)
    else n.float?.map .float
  | _, _ => n.float?.map .float

end Literal

/-! ### Values -/

namespace Document

mutual

/-- The value of a document that nests at most `depth` deep; a repeated member keeps its first place
and its last value. -/
def value? (depth : Nat) : Document → Option Json
  | .null => some .null
  | .bool b => some (.bool b)
  | .number n => n.value?
  | .str s => (Glyph.string? s).map .str
  | .arr items =>
    match depth with
    | 0 => none
    | d + 1 => (items? d items).map .arr
  | .obj members =>
    match depth with
    | 0 => none
    | d + 1 => (members? d [] members).map .obj

def items? (depth : Nat) : List Document → Option (List Json)
  | [] => some []
  | d :: rest =>
    match value? depth d with
    | none => none
    | some v => (items? depth rest).map (v :: ·)

def members? (depth : Nat) (sofar : List (String × Json)) :
    List (List Glyph × Document) → Option (List (String × Json))
  | [] => some sofar
  | (key, d) :: rest =>
    match Glyph.string? key, value? depth d with
    | some k, some v => members? depth (Entries.set k v sofar) rest
    | _, _ => none

end

def maxDepth : Nat := 127

end Document

end LiveSession
