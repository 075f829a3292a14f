import LiveSession.Text.Blank
import LiveSession.Text.Percent
import LiveSession.Url.Fault

/-!
# IPv4 addresses in hosts

A host whose last part is a number is an address of up to four parts, each decimal, octal after a
`0` or hexadecimal after `0x`; the last part fills the bytes that are left.
-/

namespace LiveSession.Url

def baseNumber? (base : Nat) (cs : List Char) : Option Nat :=
  cs.foldlM (fun n c => match Percent.hexValue? c with
    | some d => if d < base then some (n * base + d) else none
    | none => none) 0

def ipv4Part? : List Char → Option Nat
  | [] => none
  | '0' :: 'x' :: rest => baseNumber? 16 rest
  | '0' :: 'X' :: rest => baseNumber? 16 rest
  | '0' :: c :: rest => baseNumber? 8 (c :: rest)
  | cs => baseNumber? 10 cs

/-- The parts of a host; a dot at the end is left out. -/
def hostParts (cs : List Char) : List (List Char) :=
  let parts := Text.splitAll '.' cs
  if parts.getLast? = some [] then parts.dropLast else parts

def endsInNumber (cs : List Char) : Bool :=
  match (hostParts cs).getLast? with
  | none | some [] => false
  | some part => part.all Char.isDigit || (ipv4Part? part).isSome

def ipv4OfParts? (parts : List Nat) : Option Nat :=
  match parts.reverse with
  | [] => none
  | last :: before =>
    if before.length < 4 ∧ before.all (· < 256) ∧ last < 1 <<< (8 * (4 - before.length)) then
      some (before.reverse.foldl (fun n p => n * 256 + p) 0 <<< (8 * (4 - before.length)) + last)
    else none

/-- The address that a host ending in a number is. -/
def readIpv4 (cs : List Char) : Except Fault Nat :=
  match (hostParts cs).mapM ipv4Part? with
  | none => .error .ipv4
  | some parts =>
    match ipv4OfParts? parts with
    | some address => .ok address
    | none => .error .ipv4

end LiveSession.Url
