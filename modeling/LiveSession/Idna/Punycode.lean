import LiveSession.Text.Blank

/-!
# Punycode

A text is written in ASCII as its ASCII characters, a hyphen if there are any, and one number for
each other character, in the order of the code points and then of the places. A number tells how
many steps lie between one character and the next, a step being a place further on or, at the end
of the text, the next code point; it is written in base 36, the least digit first, with a
threshold for each digit below which it is the last. The thresholds follow the numbers seen
before.
-/

namespace LiveSession.Idna.Punycode

/-- The first code point that is written as a number. -/
def firstCodePoint : Nat := 0x80

def firstBias : Nat := 72

/-- The digit of value `d`, below 36. -/
def digit (d : Nat) : Char :=
  if d < 26 then Char.ofNat ('a'.toNat + d) else Char.ofNat ('0'.toNat + (d - 26))

def digitValue? (c : Char) : Option Nat :=
  if 'a' ≤ c ∧ c ≤ 'z' then some (c.toNat - 'a'.toNat)
  else if 'A' ≤ c ∧ c ≤ 'Z' then some (c.toNat - 'A'.toNat)
  else if '0' ≤ c ∧ c ≤ '9' then some (c.toNat - '0'.toNat + 26)
  else none

/-- The threshold of the digit at the position `k`, which counts 36, 72, … -/
def threshold (bias k : Nat) : Nat :=
  max 1 (min 26 (k - bias))

theorem threshold_bounds (bias k : Nat) : 1 ≤ threshold bias k ∧ threshold bias k ≤ 26 := by
  unfold threshold
  omega

/-- The bias for a number that is larger by factors of 35 than 455, each of which adds 36. -/
def settle (delta bias : Nat) : Nat :=
  if 455 < delta then settle (delta / 35) (bias + 36) else bias + 36 * delta / (delta + 38)
termination_by delta

/-- The bias after the number `delta`, with which the text has `size` characters. -/
def adapt (delta size : Nat) (isFirst : Bool) : Nat :=
  let halved := if isFirst then delta / 700 else delta / 2
  settle (halved + halved / size) 0

/-! ### Writing -/

/-- The digits of the number `q` from the position `k` on. -/
def digits (bias k q : Nat) : List Char :=
  let t := threshold bias k
  if q < t then [digit q]
  else digit (t + (q - t) % (36 - t)) :: digits bias (k + 36) ((q - t) / (36 - t))
termination_by q
decreasing_by
  have ⟨_, _⟩ := threshold_bounds bias k
  exact Nat.lt_of_le_of_lt (Nat.div_le_self _ _) (by omega)

/-- What is written so far, and where the writing of the next character starts from. -/
structure Writer where
  /-- The digits written, the last first. -/
  written : List Char
  delta : Nat
  bias : Nat
  /-- How many characters of the text are written. -/
  done : Nat

/-- Passes the place of the character `c` while characters of the code point `n` are written. -/
def Writer.pass (basics n : Nat) (w : Writer) (c : Char) : Writer :=
  if c.toNat < n then { w with delta := w.delta + 1 }
  else if c.toNat = n then
    { written := (digits w.bias 36 w.delta).reverse ++ w.written
      delta := 0
      bias := adapt w.delta (w.done + 1) (w.done == basics)
      done := w.done + 1 }
  else w

/-- Writes the characters whose code points are listed, in ascending order from `n` on. -/
def Writer.run (text : List Char) (basics : Nat) : List Nat → Nat → Writer → Writer
  | [], _, w => w
  | m :: rest, n, w =>
    let w := text.foldl (Writer.pass basics m) { w with delta := w.delta + (m - n) * (w.done + 1) }
    run text basics rest (m + 1) { w with delta := w.delta + 1 }

/-- The code points from `firstCodePoint` on, each once, in ascending order. -/
def codePoints (text : List Char) : List Nat :=
  ((text.map Char.toNat).filter (firstCodePoint ≤ ·)).mergeSort.eraseReps

def encode (text : List Char) : List Char :=
  let basics := text.filter (·.toNat < firstCodePoint)
  let start : Writer := { written := [], delta := 0, bias := firstBias, done := basics.length }
  let w := Writer.run text basics.length (codePoints text) firstCodePoint start
  basics ++ (if basics = [] then [] else ['-']) ++ w.written.reverse

/-! ### Reading -/

/-- The number at the front of `cs`, whose first digit has the position `k` and the weight
`weight`, and what comes after it. -/
def number? (bias : Nat) : (k weight : Nat) → (cs : List Char) →
    Option (Nat × { rest : List Char // rest.length < cs.length })
  | _, _, [] => none
  | k, weight, c :: cs =>
    match digitValue? c with
    | none => none
    | some d =>
      let t := threshold bias k
      if d < t then some (d * weight, ⟨cs, by simp⟩)
      else
        match number? bias (k + 36) (weight * (36 - t)) cs with
        | none => none
        | some (n, ⟨rest, h⟩) => some (d * weight + n, ⟨rest, by simp; omega⟩)

/-- Reads numbers to the end and puts a character into `text` for each. The place `i` and the code
point `n` are those reached so far. -/
def fill? (text : List Char) (basics n i bias : Nat) (cs : List Char) : Option (List Char) :=
  if cs = [] then some text
  else
    match number? bias 36 1 cs with
    | none => none
    | some (delta, ⟨rest, _⟩) =>
      let size := text.length + 1
      let n := n + (i + delta) / size
      let i := (i + delta) % size
      if Nat.isValidChar n then
        fill? (text.insertIdx i (Char.ofNat n)) basics n (i + 1)
          (adapt delta size (text.length == basics)) rest
      else none
termination_by cs.length

/-- The text before the last hyphen and what comes after it; a hyphen in front stays. -/
def cutLast (cs : List Char) : List Char × List Char :=
  match Text.cut? '-' cs.reverse with
  | some (tail, head) => if head = [] then ([], cs) else (head.reverse, tail.reverse)
  | none => ([], cs)

def decode? (cs : List Char) : Option (List Char) :=
  let (basics, numbers) := cutLast cs
  fill? basics basics.length firstCodePoint 0 firstBias numbers

end LiveSession.Idna.Punycode
