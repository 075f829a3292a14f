import LiveSession.Client.Dispatch
import LiveSession.Script.Basic

/-!
# Running of scripts

A script runs step by step: the delay of the step, then its action. The first failure ends it.
However it ends, the session is cleared. A client runs one script at a time.
-/

namespace LiveSession

/-- What a script in flight waits for. -/
inductive ScriptPhase where
  /-- The delay before `action`, until the time `due` in milliseconds. -/
  | delay (action : Action) (due : Nat)
  | act (job : Job)

/-- A script in flight: its current step, the steps after it, and the outcomes of those before. -/
structure ScriptRun where
  script : Script
  phase : ScriptPhase
  rest : List ScriptStep
  outcomes : List Outcome := []

/-- How a script ended: with the outcomes of all its steps, or with a failure. -/
abbrev ScriptResult := Except Error (List Outcome)

inductive ScriptProgress where
  | done (result : ScriptResult)
  | waiting (run : ScriptRun)

namespace Client

variable {ω : Type} [Transports ω]

def endScript (c : Client ω) (result : ScriptResult) : Client ω × ScriptProgress :=
  ({ c.clear with running := false }, .done result)

def drawDelay (c : Client ω) (s : Script) (step : ScriptStep) : Client ω × Nat :=
  match s.delayFor step with
  | none => (c, 0)
  | some span => c.draw span

def runSteps (c : Client ω) (s : Script) (outcomes : List Outcome) :
    List ScriptStep → Client ω × ScriptProgress
  | [] => c.endScript (.ok outcomes)
  | step :: rest =>
    let (c, delay) := c.drawDelay s step
    if 0 < delay then
      (c, .waiting { script := s, phase := .delay step.action (c.now + delay), rest, outcomes })
    else
      match c.dispatch step.action with
      | (c, .waiting job) => (c, .waiting { script := s, phase := .act job, rest, outcomes })
      | (c, .done (.error e)) => c.endScript (.error e)
      | (c, .done (.ok o)) => runSteps c s (outcomes ++ [o]) rest

def afterStep (r : ScriptRun) : Client ω × Progress → Client ω × ScriptProgress
  | (c, .waiting job) => (c, .waiting { r with phase := .act job })
  | (c, .done (.error e)) => c.endScript (.error e)
  | (c, .done (.ok o)) => c.runSteps r.script (r.outcomes ++ [o]) r.rest

def pollScript (c : Client ω) (r : ScriptRun) : Client ω × ScriptProgress :=
  match r.phase with
  | .delay action due => if due ≤ c.now then afterStep r (c.dispatch action) else (c, .waiting r)
  | .act job => afterStep r (c.poll job)

/-- Starts a script, unless it has no name or another one is executing. -/
def runScript (c : Client ω) (s : Script) : Client ω × ScriptProgress :=
  if Text.isBlankText s.name then (c, .done (.error Script.unnamed))
  else if c.running then (c, .done (.error (.scriptAlreadyRunning s.name)))
  else runSteps { c with running := true } s [] s.steps

end Client

end LiveSession
