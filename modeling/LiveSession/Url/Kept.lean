import LiveSession.Text.Percent

/-!
# The characters of URLs

Which characters each part of a URL keeps, all others being written as triples, and which ones of a
text count at all when it is read as a URL.
-/

namespace LiveSession.Url

/-! ### Which characters are kept -/

def isGraphicAscii (c : Char) : Bool :=
  0x20 ≤ c.toNat && c.toNat < 0x7F

def keptInFragment (c : Char) : Bool :=
  isGraphicAscii c && !" \"<>`".toList.contains c

def keptInPath (c : Char) : Bool :=
  keptInFragment c && !"#?\x7b\x7d".toList.contains c

def keptInUser (c : Char) : Bool :=
  keptInPath c && !"/:;=@[\\]^|".toList.contains c

def keptInQuery (special : Bool) (c : Char) : Bool :=
  isGraphicAscii c && !" \"#<>".toList.contains c && !(special && c == '\'')

def encoded (keep : Char → Bool) (cs : List Char) : String :=
  String.ofList (Percent.encode keep cs)

/-! ### Before reading -/

/-- Control characters and the space, which are left out at the ends. -/
def isEdge (c : Char) : Bool :=
  c.toNat ≤ 0x20

/-- Tabs and line breaks, which are left out everywhere. -/
def isIgnored (c : Char) : Bool :=
  c == '\t' || c == '\n' || c == '\r'

def significant (cs : List Char) : List Char :=
  cs.filter fun c => !isIgnored c

/-- What follows the first `n` characters that count. -/
def dropSignificant : Nat → List Char → List Char
  | 0, cs => cs
  | _ + 1, [] => []
  | n + 1, c :: cs => dropSignificant (if isIgnored c then n + 1 else n) cs

end LiveSession.Url
