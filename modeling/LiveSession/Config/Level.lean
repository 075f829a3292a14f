import LiveSession.Error
import LiveSession.Text.Blank

/-!
# Log levels
-/

namespace LiveSession

inductive LogLevel where
  | off
  | error
  | warn
  | info
  | debug
  | trace
  deriving DecidableEq, Repr, Inhabited

namespace LogLevel

def all : List LogLevel := [off, error, warn, info, debug, trace]

def name : LogLevel → String
  | off => "off"
  | error => "error"
  | warn => "warn"
  | info => "info"
  | debug => "debug"
  | trace => "trace"

/-- The digits of a number, after a plus sign or without one. -/
def digits? (cs : List Char) : Option (List Char) :=
  let ds := match cs with
    | '+' :: rest => rest
    | _ => cs
  if ds = [] ∨ ¬ ds.all Char.isDigit then none else some ds

/-- The level with a number from 0 to 5. -/
def ofNumber? (cs : List Char) : Option LogLevel :=
  (digits? cs).bind fun ds => all[ds.foldl (fun n d => n * 10 + (d.toNat - '0'.toNat)) 0]?

/-- The level of a name in any ASCII case, or of a number; the empty name is that of errors. -/
def ofName? (text : String) : Option LogLevel :=
  ofNumber? text.toList <|>
    if text = "" then some error else all.find? fun level => Text.sameIgnoringCase level.name text

def standard : LogLevel := info

/-- The level of a name, if there is a name; other names are refused. -/
def read : Option String → Except Error LogLevel
  | none => .ok standard
  | some text =>
    match ofName? text with
    | some level => .ok level
    | none =>
      .error (.config ("Unknown log level " ++ Text.quoted text ++
        "; expected one of off, error, warn, info, debug, trace"))

end LogLevel

end LiveSession
