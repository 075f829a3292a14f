import LiveSession.Url.Domain
import LiveSession.Url.Walk

/-!
# Reading URLs

`Url.parse` reads a text as a URL of its own, `Url.join` relative to another. Blanks at the ends
and tabs and line breaks anywhere are left out. Backslashes count as slashes where the scheme
is special.
-/

namespace LiveSession.Url

/-! ### The start and the end of a URL -/

/-- The scheme at the start of a text, in lower case, and what follows its colon. -/
def cutScheme? (cs : List Char) : Option (String × List Char) :=
  match cs with
  | [] => none
  | c :: _ =>
    if c.isAlpha then
      match Text.cut? ':' cs with
      | some (name, rest) =>
        if name.all fun c => c.isAlphanum || c == '+' || c == '-' || c == '.' then
          some (String.ofList (name.map Char.toLower), rest)
        else none
      | none => none
    else none

/-- A slash, or a backslash where the scheme is special. -/
def isSlash (special : Bool) (c : Char) : Bool :=
  c == '/' || (special && c == '\\')

def endsPath (c : Char) : Bool :=
  c == '?' || c == '#'

/-! ### Query and fragment -/

def readTail (special : Bool) (u : Url) : List Char → Url
  | '?' :: rest =>
    match Text.cut? '#' rest with
    | some (query, fragment) =>
      { u with
        query := some (encoded (keptInQuery special) query)
        fragment := some (encoded keptInFragment fragment) }
    | none => { u with query := some (encoded (keptInQuery special) rest), fragment := none }
  | '#' :: rest => { u with query := none, fragment := some (encoded keptInFragment rest) }
  | _ => { u with query := none, fragment := none }

/-! ### Paths -/

def pathPieces (special : Bool) (path : List Char) : List (List Char) :=
  Text.splitAll '/' (path.map fun c => if isSlash special c then '/' else c)

/-- The URL with the path that goes on from `w` through `cs`, with the query and fragment behind. -/
def readPath (u : Url) (w : Walk) (cs : List Char) : Url :=
  let special := isSpecial u.scheme
  let file := u.scheme == "file"
  let path := cs.takeWhile fun c => !endsPath c
  let result := (w.run file (pathPieces special path)).segments
  readTail special { u with path := .segments (if file then trimFile result else result) }
    (significant (cs.drop path.length))

def readPathAfterHost (u : Url) (cs : List Char) : Url :=
  let special := isSpecial u.scheme
  match cs with
  | c :: rest =>
    if isSlash special c then readPath u .root rest
    else if !special && endsPath c then readTail special { u with path := .segments [] } cs
    else readPath u .root cs
  | [] =>
    if special then readPath u .root [] else readTail special { u with path := .segments [] } []

/-! ### Hosts -/

/-- The last `@` before the path divides `cs` into the user and the rest. -/
def cutUser (special : Bool) (cs : List Char) : Option (List Char × List Char) :=
  let authority := cs.takeWhile fun c => !(isSlash special c || endsPath c)
  match Text.cut? '@' authority.reverse with
  | none => none
  | some (after, before) => some (before.reverse, after.reverse ++ cs.drop authority.length)

def readUser (cs : List Char) : String × String :=
  match Text.cut? ':' cs with
  | some (name, password) => (encoded keptInUser name, encoded keptInUser password)
  | none => (encoded keptInUser cs, "")

/-- The length of the host at the start of a text; colons inside brackets belong to it. -/
def hostLength (special : Bool) (bracketed : Bool) : List Char → Nat
  | [] => 0
  | c :: cs =>
    if (c == ':' && !bracketed) || isSlash special c || endsPath c then 0
    else
      hostLength special (if c == '[' then true else if c == ']' then false else bracketed) cs + 1

/-- The port after a colon, if it has digits, and what follows it. -/
def readPort (cs : List Char) : Except Fault (Option Nat × List Char) :=
  let ds := cs.takeWhile Char.isDigit
  let rest := cs.drop ds.length
  let n := ds.foldl (fun n d => n * 10 + (d.toNat - '0'.toNat)) 0
  if 65535 < n then .error .port
  else
    match rest with
    | c :: _ =>
      if isSlash true c || endsPath c then .ok (if ds = [] then none else some n, rest)
      else .error .port
    | [] => .ok (if ds = [] then none else some n, rest)

def readFromHost (u : Url) (hadUser : Bool) (cs : List Char) : Except Fault Url := do
  let special := isSpecial u.scheme
  let length := hostLength special false cs
  if length = 0 ∧ (special ∨ hadUser ∨ cs.head? = some ':') then throw .emptyHost
  let host ← readHost special (cs.take length)
  let u := { u with host := some host }
  match cs.drop length with
  | ':' :: rest =>
    let (port, rest) ← readPort rest
    return readPathAfterHost (match port with | some p => u.withPort p | none => u) rest
  | rest => return readPathAfterHost u rest

def readAfterSlashes (u : Url) (cs : List Char) : Except Fault Url :=
  let special := isSpecial u.scheme
  match cutUser special cs with
  | none => readFromHost u false cs
  | some ([], rest) =>
    match rest with
    | [] => readFromHost u false rest
    | c :: _ =>
      if isSlash special c || endsPath c then .error .emptyHost else readFromHost u false rest
  | some (user, rest) =>
    let (username, password) := readUser user
    readFromHost { u with username, password } (username ≠ "" || password ≠ "") rest

/-! ### Files -/

def pathSegments (u : Url) : List String :=
  match u.path with
  | .segments list => list
  | .flat _ => []

def startsWithDrive (cs : List Char) : Bool :=
  match cs with
  | a :: b :: rest =>
    isDrive [a, b] && (match rest with
      | [] => true
      | c :: _ => isSlash true c || endsPath c)
  | _ => false

/-- The rest of a file's URL after its two slashes. The own machine has no name, nor has the one
whose drive the path names; without a name the slash after it belongs to the path. -/
def readFileHost (u : Url) (cs : List Char) : Except Fault Url :=
  let host := (significant cs).takeWhile fun c => !(isSlash true c || endsPath c)
  let after := dropSignificant host.length cs
  if host = [] ∨ isDrive host then .ok (readPath u .root cs)
  else do
    let h ← readHost true host
    if h = .domain "localhost" then return readPath u .root after
    else
      let path := if (significant after).head?.any (isSlash true) then dropSignificant 1 after
        else after
      let walk := Walk.root.run true (pathPieces true (path.takeWhile fun c => !endsPath c))
      return readPath (if walk.onDrive then u else { u with host := some h }) .root path

/-- A URL of the scheme `file`, relative to `base` if that is one as well. Ignored characters are
still part of `raw`: they may cut a drive from what follows it. -/
def readFile (base : Option Url) (raw : List Char) : Except Fault Url :=
  let empty : Url := { scheme := "file", host := some (.domain ""), path := .segments [] }
  let cs := significant raw
  match cs with
  | c :: rest =>
    if isSlash true c then
      match rest with
      | d :: _ =>
        if isSlash true d then readFileHost empty (dropSignificant 2 raw)
        else .ok (rooted empty (dropSignificant 1 raw))
      | [] => .ok (rooted empty [])
    else
      match base with
      | none => .ok (readPath empty .root raw)
      | some b =>
        if c == '?' then .ok (readTail true { b with fragment := none } cs)
        else if c == '#' then .ok { b with fragment := some (encoded keptInFragment rest) }
        else if startsWithDrive cs then .ok (readPath empty .root raw)
        else .ok (readPath b (.ofBase true b.pathSegments) raw)
  | [] => .ok (base.elim (readPath empty .root []) fun b => { b with fragment := none })
where
  /-- A path from the root, on the host and drive of the base. -/
  rooted (empty : Url) (rest : List Char) : Url :=
    match base with
    | none => readPath empty .root rest
    | some b =>
      if startsWithDrive (significant rest) then readPath empty .root rest
      else match b.pathSegments with
        | drive :: _ =>
          if isNormalDrive drive.toList then readPath empty { closed := [drive] } rest
          else readPath { empty with host := b.host } .root rest
        | [] => readPath { empty with host := b.host } .root rest

/-! ### All of it -/

/-- A URL with no hierarchy: the path is a single text. -/
def readFlat (u : Url) (cs : List Char) : Url :=
  let path := cs.takeWhile fun c => !endsPath c
  readTail false { u with path := .flat (encoded isGraphicAscii path) } (cs.drop path.length)

/-- A URL with a scheme that is not special, after its colon. -/
def readOther (scheme : String) (cs : List Char) : Except Fault Url :=
  let u : Url := { scheme, host := none, path := .segments [] }
  match cs with
  | '/' :: '/' :: rest => readAfterSlashes u rest
  | '/' :: rest => .ok (readPath u .root rest)
  | _ => .ok (readFlat u cs)

/-- The part of a text that is relative to `base`, which has a hierarchy. -/
def readRelative (base : Url) (cs : List Char) : Except Fault Url :=
  let special := isSpecial base.scheme
  match cs with
  | [] => .ok { base with fragment := none }
  | c :: rest =>
    if c == '?' then .ok (readTail special base cs)
    else if c == '#' then .ok { base with fragment := some (encoded keptInFragment rest) }
    else if c == '/' || c == '\\' then
      let bare : Url := { scheme := base.scheme, host := none, path := .segments [] }
      match cs with
      | '/' :: '/' :: after => readAfterSlashes bare after
      | _ =>
        if rest.head?.any (isSlash true) then
          readAfterSlashes bare (cs.dropWhile (isSlash true))
        else .ok (readPath base .root rest)
    else .ok (readPath base (.ofBase false base.pathSegments) cs)

def readWithScheme (base : Option Url) (scheme : String) (cs : List Char) : Except Fault Url :=
  if isSpecial scheme then
    let slashes := (cs.takeWhile (isSlash true)).length
    match base.filter fun b => decide (slashes < 2) && b.scheme == scheme with
    | some b => readRelative b cs
    | none =>
      readAfterSlashes { scheme, host := none, path := .segments [] } (cs.drop slashes)
  else readOther scheme cs

/-- A text as a URL, relative to `base` if there is one. -/
def read (base : Option Url) (s : String) : Except Fault Url :=
  let raw := Text.stripWhile isEdge s.toList
  let cs := significant raw
  match cutScheme? cs with
  | some (scheme, rest) =>
    if scheme = "file" then
      readFile (base.filter fun b => b.scheme == "file") ((raw.dropWhile (· != ':')).drop 1)
    else readWithScheme base scheme rest
  | none =>
    match base with
    | none => .error .noBase
    | some b =>
      match cs, b.path with
      | '#' :: rest, _ => .ok { b with fragment := some (encoded keptInFragment rest) }
      | _, .flat _ => .error .baseWithoutHierarchy
      | _, .segments _ => if b.scheme = "file" then readFile base raw else readRelative b cs

def parse (s : String) : Except Fault Url :=
  read none s

/-- The URL that a text names as seen from `base`. -/
def join (base : Url) (s : String) : Except Fault Url :=
  read (some base) s

end LiveSession.Url
