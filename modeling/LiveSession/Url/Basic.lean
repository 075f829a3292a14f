import LiveSession.Text.Blank
import LiveSession.Text.Percent
import LiveSession.Url.Fault

/-!
# URLs

The parts of a URL and its text. A path is a list of segments, or a single text where the URL names
no hierarchy (`mailto:a@b`).
-/

namespace LiveSession

namespace Url

/-- What follows `//` in a URL. -/
inductive Host where
  /-- A name in ASCII; it may be empty where the scheme allows it. -/
  | domain (name : String)
  | ipv4 (address : Nat)
  /-- Eight 16-bit pieces. -/
  | ipv6 (pieces : List Nat)
  deriving DecidableEq, Repr

inductive Path where
  | segments (list : List String)
  | flat (text : String)
  deriving DecidableEq, Repr

end Url

/-- A URL. The password is empty where there is none; a port is kept only if it is not the default
of the scheme. -/
structure Url where
  scheme : String
  username : String := ""
  password : String := ""
  host : Option Url.Host
  port : Option Nat := none
  path : Url.Path
  query : Option String := none
  fragment : Option String := none
  deriving DecidableEq, Repr

namespace Url

def defaultPort? (scheme : String) : Option Nat :=
  if scheme = "http" ∨ scheme = "ws" then some 80
  else if scheme = "https" ∨ scheme = "wss" then some 443
  else if scheme = "ftp" then some 21
  else none

/-- Schemes whose URLs always have a host and a path. -/
def isSpecial (scheme : String) : Bool :=
  (defaultPort? scheme).isSome || scheme == "file"

/-! ### The text of a host -/

def ipv4Text (address : Nat) : String :=
  Text.join "." ([24, 16, 8, 0].map fun shift => toString (address >>> shift % 256))

def zeroRun (pieces : List Nat) : Nat :=
  (pieces.takeWhile (· == 0)).length

/-- The place and length of the first longest run of at least two zeros, looking from place `i` with
`best` found so far. -/
def longestZeros (i : Nat) (best : Nat × Nat) : List Nat → Nat × Nat
  | [] => best
  | p :: rest =>
    let run := zeroRun (p :: rest)
    longestZeros (i + 1) (if best.2 < run ∧ 1 < run then (i, run) else best) rest

def piecesText (pieces : List Nat) : String :=
  Text.join ":" (pieces.map fun p => String.ofList (Nat.toDigits 16 p))

/-- An IPv6 address with its longest run of zeros left out. -/
def ipv6Text (pieces : List Nat) : String :=
  let (start, run) := longestZeros 0 (0, 0) pieces
  if run = 0 then piecesText pieces
  else piecesText (pieces.take start) ++ "::" ++ piecesText (pieces.drop (start + run))

def Host.text : Host → String
  | .domain name => name
  | .ipv4 address => ipv4Text address
  | .ipv6 pieces => "[" ++ ipv6Text pieces ++ "]"

/-! ### The text of a URL -/

def pathText (u : Url) : String :=
  match u.path with
  | .flat text => text
  | .segments list => String.join (list.map fun s => "/" ++ s)

/-- The text of the host, unless it is empty. -/
def hostText? (u : Url) : Option String :=
  match u.host with
  | none | some (.domain "") => none
  | some h => some h.text

def userText (u : Url) : String :=
  if u.username = "" ∧ u.password = "" then ""
  else if u.password = "" then u.username ++ "@"
  else u.username ++ ":" ++ u.password ++ "@"

/-- What stands between the scheme and the path; a path that would look like a host is kept apart
from the scheme. -/
def authorityText (u : Url) : String :=
  match u.host with
  | some h => "//" ++ u.userText ++ h.text ++ u.port.elim "" fun p => ":" ++ toString p
  | none =>
    match u.path with
    | .segments ("" :: _ :: _) => "/."
    | _ => ""

def text (u : Url) : String :=
  u.scheme ++ ":" ++ u.authorityText ++ u.pathText ++
    (u.query.elim "" fun q => "?" ++ q) ++ (u.fragment.elim "" fun f => "#" ++ f)

def resource (u : Url) : String :=
  u.pathText ++ u.query.elim "" fun q => "?" ++ q

def effectivePort? (u : Url) : Option Nat :=
  u.port <|> defaultPort? u.scheme

/-- The URL with a port, which is left out if it is the default of the scheme. -/
def withPort (u : Url) (port : Nat) : Url :=
  { u with port := if defaultPort? u.scheme = some port then none else some port }

/-- Two URLs with the same scheme, host and port have one origin. -/
def sameOrigin (u v : Url) : Prop :=
  u.scheme = v.scheme ∧ u.host = v.host ∧ u.effectivePort? = v.effectivePort?

instance (u v : Url) : Decidable (sameOrigin u v) :=
  inferInstanceAs (Decidable (_ ∧ _ ∧ _))

end Url

end LiveSession
