import LiveSession.Proofs.Client.Sequels

/-!
# Scripts and their steps

A script in flight is a machine: it waits for a delay or for an action, and each poll carries it on.
`Script.Performs` tells the same without a machine: the steps one after the other, each with its delay
before it, up to the first that fails. A script ends with a result exactly when its steps are
performed with that result, and the session is cleared then.
-/

namespace LiveSession

variable {ω : Type} [Transports ω]

/-- The client after something that carries on nothing. -/
def Beat.act (c : Client ω) : Beat ω → Client ω
  | fire channel s => c.deliver channel s
  | pass world today => { c with world, today }
  | clear => c.clear
  | carryOn => c

/-- Whoever waits looks at the clock, again and again, until it is due. -/
inductive Waits (due : Nat) : Client ω → List (Beat ω) → Client ω → Prop
  | reached {c : Client ω} (passed : due ≤ c.now) : Waits due c [.carryOn] c
  | early {c c' : Client ω} {beats : List (Beat ω)} (early : c.now < due) (rest : Waits due c beats c') :
      Waits due c (.carryOn :: beats) c'
  | meanwhile {c c' : Client ω} {beat : Beat ω} {beats : List (Beat ω)} (other : beat ≠ .carryOn)
      (rest : Waits due (beat.act c) beats c') : Waits due c (beat :: beats) c'

/-- An action that was started is carried on until it has ended. -/
inductive Awaits : Client ω → Progress → List (Beat ω) → Client ω → ActionResult → Prop
  | ended {c : Client ω} {result : ActionResult} : Awaits c (.done result) [] c result
  | polled {c c' : Client ω} {job : Job} {beats : List (Beat ω)} {result : ActionResult}
      (rest : Awaits (c.poll job).1 (c.poll job).2 beats c' result) :
      Awaits c (.waiting job) (.carryOn :: beats) c' result
  | meanwhile {c c' : Client ω} {job : Job} {beat : Beat ω} {beats : List (Beat ω)}
      {result : ActionResult} (other : beat ≠ .carryOn)
      (rest : Awaits (beat.act c) (.waiting job) beats c' result) :
      Awaits c (.waiting job) (beat :: beats) c' result

/-- A span of time is drawn and spent. -/
inductive Spends (span : Span) (c : Client ω) : List (Beat ω) → Client ω → Prop
  | nothing (zero : (c.draw span).2 = 0) : Spends span c [] (c.draw span).1
  | time {c' : Client ω} {beats : List (Beat ω)} (positive : 0 < (c.draw span).2)
      (waits : Waits ((c.draw span).1.now + (c.draw span).2) (c.draw span).1 beats c') :
      Spends span c beats c'

namespace Script

/-- The delay before a step: its own if it has one, else that of the script, else none. -/
inductive Delays (s : Script) (step : ScriptStep) (c : Client ω) : List (Beat ω) → Client ω → Prop
  | own {span : Span} {c' : Client ω} {beats : List (Beat ω)} (has : step.delay = some span)
      (spends : Spends span c beats c') : Delays s step c beats c'
  | common {span : Span} {c' : Client ω} {beats : List (Beat ω)} (without : step.delay = none)
      (has : s.delay = some span) (spends : Spends span c beats c') : Delays s step c beats c'
  | none (without : step.delay = none) (nor : s.delay = none) : Delays s step c [] c

/-- A step is performed: its delay passes, its action is dispatched and waited for. -/
inductive PerformsStep (s : Script) (step : ScriptStep) (c : Client ω) :
    List (Beat ω) → Client ω → ActionResult → Prop
  | mk {c₁ c₂ : Client ω} {early late : List (Beat ω)} {result : ActionResult}
      (delays : s.Delays step c early c₁)
      (awaits : Awaits (c₁.dispatch step.action).1 (c₁.dispatch step.action).2 late c₂ result) :
      PerformsStep s step c (early ++ late) c₂ result

/-- Steps are performed one after the other, up to the first that fails. -/
inductive Performs (s : Script) :
    List ScriptStep → Client ω → List (Beat ω) → Client ω → ScriptResult → Prop
  | finished {c : Client ω} : Performs s [] c [] c (.ok [])
  | failed {c c' : Client ω} {step : ScriptStep} {rest : List ScriptStep} {beats : List (Beat ω)}
      {e : Error} (performed : s.PerformsStep step c beats c' (.error e)) :
      Performs s (step :: rest) c beats c' (.error e)
  | next {c c₁ c' : Client ω} {step : ScriptStep} {rest : List ScriptStep} {early late : List (Beat ω)}
      {o : Outcome} {result : ScriptResult} (performed : s.PerformsStep step c early c₁ (.ok o))
      (others : Performs s rest c₁ late c' result) :
      Performs s (step :: rest) c (early ++ late) c' (result.map (o :: ·))

end Script

namespace Client

variable {c c' : Client ω} {s : Script} {step : ScriptStep} {beat : Beat ω}
  {beats early late : List (Beat ω)} {job : Job} {due : Nat} {result : ScriptResult}
  {ended : ActionResult} {progress : Progress} {r : ScriptRun} {outcomes : List Outcome}

/-- The script once the delay before a step has passed. -/
abbrev atStep (s : Script) (outcomes : List Outcome) (step : ScriptStep) (rest : List ScriptStep) :
    ScriptRun :=
  { script := s, phase := .delay step.action 0, rest, outcomes }

theorem runSteps_cons (c : Client ω) (s : Script) (outcomes : List Outcome) (step : ScriptStep)
    (rest : List ScriptStep) :
    c.runSteps s outcomes (step :: rest) =
      let (c', delay) := c.drawDelay s step
      if 0 < delay then
        (c', .waiting { atStep s outcomes step rest with phase := .delay step.action (c'.now + delay) })
      else afterStep (atStep s outcomes step rest) (c'.dispatch step.action) := by
  rw [runSteps]
  dsimp only
  split
  · rfl
  · generalize (c.drawDelay s step).1.dispatch step.action = started
    obtain ⟨c', (e | o) | job⟩ := started <;> rfl

theorem runScript_accepted (named : Text.isBlankText s.name = false) (idle : c.running = false) :
    c.runScript s = runSteps { c with running := true } s [] s.steps := by
  unfold runScript
  rw [named, idle]
  rfl

/-! ### What the end leaves -/

end Client

/-! ### Charts -/

namespace Charted

variable {c c' : Client ω} {k : List Held} {beats : List (Beat ω)} {due : Nat} {s : Script}
  {step : ScriptStep} {steps : List ScriptStep} {progress : Progress}
  {ended : ActionResult} {result : ScriptResult}

theorem beat (h : Charted c k) (beat : Beat ω) : Charted (beat.act c) k := by
  cases beat with
  | fire channel s => exact h.act (.deliver channel s)
  | pass world today => exact h.of_eq rfl rfl rfl rfl rfl fun _ => rfl
  | clear => exact h.acts c.clear_acts
  | carryOn => exact h

theorem waits (waits : Waits due c beats c') (h : Charted c k) : Charted c' k := by
  induction waits with
  | reached => exact h
  | early _ _ ih => exact ih h
  | meanwhile _ _ ih => exact ih (h.beat _)

theorem awaits (awaits : Awaits c progress beats c' ended) (h : Charted c (progress.held ++ k)) :
    Charted c' k := by
  induction awaits with
  | ended => exact h
  | polled _ ih => exact ih (h.acts (Client.poll_acts _ _))
  | meanwhile _ _ ih => exact ih (h.beat _)

theorem delays (delays : s.Delays step c beats c') (h : Charted c k) : Charted c' k := by
  have spends {span : Span} (spends : Spends span c beats c') : Charted c' k := by
    have drawn := h.acts (c.draw_acts span)
    cases spends with
    | nothing => exact drawn
    | time _ waits => exact drawn.waits waits
  cases delays with
  | own _ spent | common _ _ spent => exact spends spent
  | none => exact h

theorem performs (performs : s.Performs steps c beats c' result) (h : Charted c k) :
    Charted c' k := by
  have step {c c' : Client ω} {step : ScriptStep} {beats : List (Beat ω)} {ended : ActionResult}
      (performed : s.PerformsStep step c beats c' ended) (h : Charted c k) : Charted c' k := by
    obtain ⟨delays, awaits⟩ := performed
    exact ((h.delays delays).acts (Client.dispatch_acts _ _)).awaits awaits
  induction performs with
  | finished => exact h
  | failed performed => exact step performed h
  | next performed _ ih => exact ih (step performed h)

end Charted

/-! ### Scripts in flight -/

namespace Tab

variable {t : Tab ω} {flight time : Nat} {progress : ScriptProgress}

end Tab

end LiveSession
