import LiveSession.Idna.Domain
import LiveSession.Url.Basic
import LiveSession.Url.Ipv4
import LiveSession.Url.Ipv6
import LiveSession.Url.Kept

/-!
# Hosts

The host that a text between the slashes of a URL names.
-/

namespace LiveSession.Url

def isForbiddenInDomain (c : Char) : Bool :=
  c.toNat ≤ 0x20 || c.toNat == 0x7F || "%#/:<>?@[\\]^|".toList.contains c

def asciiDomain? (cs : List Char) : Option (List Char) :=
  (Idna.toAscii? cs).filter fun name => !(name.any isForbiddenInDomain)

def readBracketed (rest : List Char) : Except Fault Host :=
  match rest.getLast? with
  | some ']' =>
    match readIpv6? rest.dropLast with
    | some pieces => .ok (.ipv6 pieces)
    | none => .error .ipv6
  | _ => .error .ipv6

/-- The host of a URL with a special scheme. -/
def readDomain (cs : List Char) : Except Fault Host :=
  match (Percent.decodeText? cs).bind asciiDomain? with
  | none => .error .internationalName
  | some [] => .error .emptyHost
  | some name =>
    if endsInNumber name then .ipv4 <$> readIpv4 name else .ok (.domain (String.ofList name))

def isForbiddenInHost (c : Char) : Bool :=
  "\x00\t\n\r #/:<>?@[\\]^|".toList.contains c

/-- The host of a URL with another scheme, whose characters are kept. -/
def readPlainHost (cs : List Char) : Except Fault Host :=
  if cs.any isForbiddenInHost then .error .hostCharacter
  else .ok (.domain (String.ofList (Percent.encode isGraphicAscii cs)))

def readHost (special : Bool) (cs : List Char) : Except Fault Host :=
  match cs with
  | '[' :: rest => readBracketed rest
  | _ => if special then readDomain cs else readPlainHost cs

end LiveSession.Url
