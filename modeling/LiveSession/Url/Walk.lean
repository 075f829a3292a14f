import LiveSession.Text.Blank
import LiveSession.Url.Kept

/-!
# Walking a path

The path of a URL is read piece by piece, a piece being what stands between two slashes. A piece
`.` stays where it is and `..` goes back, but never past a segment that names a drive (`C:`).
A drive at the root of a file's path is written with a colon.
-/

namespace LiveSession.Url

/-! ### Pieces -/

/-- `cs` with its `%2e` as dots. -/
def dots : List Char → List Char
  | '%' :: '2' :: 'e' :: rest => '.' :: dots rest
  | '%' :: '2' :: 'E' :: rest => '.' :: dots rest
  | c :: rest => c :: dots rest
  | [] => []

/-- A letter and a colon or a bar, which name a drive. -/
def isDrive (cs : List Char) : Bool :=
  match cs with
  | [letter, mark] => letter.isAlpha && (mark == ':' || mark == '|')
  | _ => false

def isNormalDrive (cs : List Char) : Bool :=
  match cs with
  | [letter, ':'] => letter.isAlpha
  | _ => false

/-- A segment that is a drive, or a drive and a backslash with anything behind. -/
def namesDrive (s : String) : Bool :=
  isDrive (s.toList.takeWhile (· != '\\'))

/-- A drive with a colon and what follows it, if ignored characters and then others follow: they
cut the drive off like a slash, and what follows is then taken as it is. -/
def cutDrive? (cs : List Char) : Option (List Char × List Char) :=
  let drive := (significant cs).take 2
  let rest := dropSignificant 2 cs
  if isNormalDrive drive && rest.head?.any isIgnored && !(significant rest).isEmpty then
    some (drive, significant rest)
  else none

/-! ### Walks -/

/-- A path as far as it has been read. -/
structure Walk where
  /-- The segments that a slash follows. -/
  closed : List String
  /-- What stands behind the last slash. -/
  opened : String := ""
  /-- A drive has been read at the root. -/
  onDrive : Bool := false
  deriving DecidableEq, Repr

namespace Walk

def root : Walk :=
  { closed := [] }

def segments (w : Walk) : List String :=
  w.closed ++ [w.opened]

def close (w : Walk) : Walk :=
  { w with closed := w.segments, opened := "" }

/-- A slash behind the path, if `slash` says so. -/
def closeIf (slash : Bool) (w : Walk) : Walk :=
  if slash then w.close else w

def atRoot (w : Walk) : Bool :=
  w.closed.isEmpty && w.opened == ""

/-- The path without its last closed segment, unless that names a drive. -/
def back (w : Walk) : Walk :=
  if w.closed.getLast?.any namesDrive then w
  else { w with closed := w.closed.dropLast }

/-- The walk that goes on from a path of `segments` without the last one. The last segment of a
file's path stays if it is a drive. -/
def ofBase (file : Bool) (segments : List String) : Walk :=
  match segments.getLast? with
  | some s =>
    if file && isNormalDrive s.toList then
      let w : Walk := { closed := segments.dropLast, opened := s }
      if w.closed.isEmpty then w.close else w
    else { closed := segments.dropLast }
  | none => root

/-- The path after one more piece, which a slash may follow. -/
def step (file : Bool) (w : Walk) (piece : List Char) (slash : Bool) : Walk :=
  let text := significant piece
  if dots text = ['.', '.'] then
    if w.opened = "" then w.back else w.closeIf slash
  else if dots text = ['.'] then
    if w.opened = "" then w else w.close
  else if file && w.atRoot && isDrive text then
    closeIf slash { w with opened := String.ofList (text.take 1 ++ [':']), onDrive := true }
  else
    match if file && w.atRoot then cutDrive? piece else none with
    | some (drive, rest) =>
      closeIf slash { w with closed := [String.ofList drive], opened := encoded keptInPath rest }
    | none => closeIf slash { w with opened := w.opened ++ encoded keptInPath text }

def run (file : Bool) (w : Walk) : List (List Char) → Walk
  | [] => w
  | [piece] => w.step file piece false
  | piece :: rest => run file (w.step file piece true) rest

end Walk

/-- Empty segments at the start are left out of the path of a file. -/
def trimFile (segments : List String) : List String :=
  match segments.dropWhile (· == "") with
  | [] => [""]
  | rest => rest

end LiveSession.Url
