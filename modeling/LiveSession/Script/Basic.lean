import LiveSession.Action.Decode
import LiveSession.Json.Read

/-!
# Scripts

A script is a named sequence of actions with delays. A step waits its own delay if it has one, else
that of the script. `Script.ofJson` reads a script from JSON.
-/

namespace LiveSession

/-- One action of a script, with the delay before it if it has its own. -/
structure ScriptStep where
  action : Action
  delay : Option Span := none

structure Script where
  name : String
  /-- The delay before each step that has none of its own. -/
  delay : Option Span := none
  steps : List ScriptStep

namespace Script

def delayFor (s : Script) (step : ScriptStep) : Option Span :=
  step.delay <|> s.delay

/-- The member `delay` of an object: a whole number of milliseconds, `null` or missing. -/
def readDelay : Option Json → Except Error (Option Span)
  | none | some .null => .ok none
  | some (.int n) =>
    if 0 ≤ n ∧ n < millisLimit then .ok (some (.fixed n.toNat)) else fractional (.int n)
  | some (.float x) => fractional (.float x)
  | some other => .error (.invalidScript ("delay must be a number, got " ++ other.render))
where
  fractional (v : Json) : Except Error (Option Span) :=
    .error (.invalidScript ("delay must be whole milliseconds, got " ++ v.render))

/-- The step that an entry of a script stands for: its delay is read before its action. -/
def readStep (entry : Json) : Except Error ScriptStep := do
  let delay ← match entry with
    | .obj _ => readDelay (entry.get? "delay")
    | _ => .ok none
  return { action := ← Action.ofJson entry, delay }

def readSteps : List Json → Except Error (List ScriptStep)
  | [] => .ok []
  | entry :: rest => do
    let step ← readStep entry
    return step :: (← readSteps rest)

def unnamed : Error := .invalidScript "script requires a non-empty name"

/-- The name of a script object, which is not blank. -/
def readName (v : Json) : Except Error String :=
  match v.get? "name" with
  | some (.str name) => if Text.isBlankText name then .error unnamed else .ok name
  | _ => .error unnamed

def ofJson (v : Json) : Except Error Script :=
  match v with
  | .obj _ => do
    let name ← readName v
    match v.get? "actions" with
    | some (.arr entries) => do
      let steps ← readSteps entries
      return { name, steps, delay := ← readDelay (v.get? "delay") }
    | _ => .error (.invalidScript ("script " ++ Text.quoted name ++ " requires an actions array"))
  | _ => .error (.invalidScript "script must be an object")

def ofText (text : String) : Except Error Script :=
  match Json.parse? text with
  | some v => ofJson v
  | none => .error .malformed

end Script

end LiveSession
