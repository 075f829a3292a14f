import LiveSession.Text.Blank
import LiveSession.Text.Percent

/-!
# IPv6 addresses

Eight pieces of up to four hexadecimal digits between colons; one run of zeros may be left out as
`::`, and the last two pieces may be written as an IPv4 address.
-/

namespace LiveSession.Url

/-- A piece of one to four hexadecimal digits. -/
def ipv6Piece? (cs : List Char) : Option Nat :=
  if cs = [] ∨ 4 < cs.length then none
  else (cs.mapM Percent.hexValue?).map fun ds => ds.foldl (fun n d => n * 16 + d) 0

/-- A byte in decimal digits without a zero before others. -/
def decimalByte? (cs : List Char) : Option Nat :=
  if cs = [] ∨ 3 < cs.length ∨ ¬ cs.all Char.isDigit ∨ (cs.head? = some '0' ∧ 1 < cs.length) then
    none
  else
    let n := cs.foldl (fun n d => n * 10 + (d.toNat - '0'.toNat)) 0
    if n < 256 then some n else none

/-- The two pieces of an IPv4 address. -/
def embeddedIpv4? (cs : List Char) : Option (List Nat) :=
  match (Text.splitAll '.' cs).mapM decimalByte? with
  | some [a, b, c, d] => some [a * 256 + b, c * 256 + d]
  | _ => none

/-- The pieces between colons; only the last may be an IPv4 address. -/
def ipv6Pieces? : List (List Char) → Option (List Nat)
  | [] => some []
  | [last] => if last.contains '.' then embeddedIpv4? last else (ipv6Piece? last).map ([·])
  | piece :: rest => do
    let p ← ipv6Piece? piece
    return p :: (← ipv6Pieces? rest)

/-- Pieces between colons before or after `::`, where there may be none; before it there is no
IPv4 address. -/
def ipv6Side? (isLast : Bool) (cs : List Char) : Option (List Nat) :=
  if cs = [] then some []
  else if !isLast && cs.contains '.' then none
  else ipv6Pieces? (Text.splitAll ':' cs)

/-- `cs` cut at the first `::`. -/
def cutDoubleColon? : List Char → Option (List Char × List Char)
  | ':' :: ':' :: rest => some ([], rest)
  | c :: rest => (cutDoubleColon? rest).map fun p => (c :: p.1, p.2)
  | [] => none

def readIpv6? (cs : List Char) : Option (List Nat) :=
  match cutDoubleColon? cs with
  | none => do
    let pieces ← ipv6Side? true cs
    if pieces.length = 8 then return pieces else none
  | some (before, after) => do
    let front ← ipv6Side? false before
    let back ← ipv6Side? true after
    if front.length + back.length < 8 then
      return front ++ List.replicate (8 - front.length - back.length) 0 ++ back
    else none

end LiveSession.Url
