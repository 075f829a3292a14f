import LiveSession.Proofs.Client.Steady
import LiveSession.Proofs.Client.Verdicts

/-!
# One script at a time

A client executes one script at a time: `Exclusive` says that the mark of the client is set exactly
while a script of its tab is in flight, and that there is never a second one. A script that is
started meanwhile is refused at once. `run_without` says that the refusal has no further effect: with
the refused script left out, the tab is at any later time what it would be without the call.
-/

namespace LiveSession

variable {ω : Type}

def Script.refusal (s : Script) : Error :=
  if Text.isBlankText s.name then unnamed else .scriptAlreadyRunning s.name

/-- The event on a tab where a flight is left out; carrying on that flight is no event there. -/
def TabEvent.without (flight : Nat) : TabEvent ω → Option (TabEvent ω)
  | .poll polled =>
    if polled = flight then none else some (.poll (if polled < flight then polled else polled - 1))
  | event => some event

/-- An action is no script. -/
theorem Flight.ofProgress_ne_script (now : Nat) (progress : Progress) (run : ScriptRun) :
    ofProgress now progress ≠ script run := by
  cases progress <;> exact nofun

def Flight.isScript : Flight → Bool
  | script _ => true
  | _ => false

theorem Flight.isScript_iff {f : Flight} : f.isScript = true ↔ ∃ run, f = script run := by
  cases f <;> simp [isScript]

namespace Client

/-- The mark that a script is executing is as it was, and it is gone once the script has ended. -/
def Marks (before : Bool) : Client ω × ScriptProgress → Prop
  | (c, .waiting _) => c.running = before
  | (c, .done _) => c.running = false

variable [Transports ω]

theorem marks_endScript (c : Client ω) (result : ScriptResult) (before : Bool) :
    Marks before (c.endScript result) := rfl

theorem marks_runSteps (c : Client ω) (s : Script) (outcomes : List Outcome)
    (steps : List ScriptStep) : Marks c.running (c.runSteps s outcomes steps) := by
  induction steps generalizing c outcomes with
  | nil => exact c.marks_endScript _ _
  | cons step rest ih =>
    have drawn := c.steady_drawDelay s step
    unfold runSteps
    generalize c.drawDelay s step = result at drawn ⊢
    obtain ⟨c', delay⟩ := result
    dsimp only at drawn ⊢
    split
    · exact drawn.running
    · have started := drawn.trans (c'.steady_dispatch step.action)
      generalize c'.dispatch step.action = result at started ⊢
      obtain ⟨c'', (e | o) | job⟩ := result
      · exact c''.marks_endScript _ _
      · rw [← started.running]
        exact ih c'' _
      · exact started.running

theorem marks_afterStep (r : ScriptRun) (c : Client ω) (progress : Progress) :
    Marks c.running (afterStep r (c, progress)) := by
  obtain (e | o) | job := progress
  · exact c.marks_endScript _ _
  · exact c.marks_runSteps _ _ _
  · rfl

theorem marks_pollScript (c : Client ω) (r : ScriptRun) : Marks c.running (c.pollScript r) := by
  unfold pollScript
  cases r.phase with
  | delay action due =>
    dsimp only
    split
    · rw [← (c.steady_dispatch action).running]
      exact marks_afterStep r _ _
    · rfl
  | act job =>
    rw [← (c.steady_poll job).running]
    exact marks_afterStep r _ _

theorem runScript_refused {c : Client ω} (running : c.running = true) (s : Script) :
    c.runScript s = (c, .done (.error s.refusal)) := by
  unfold runScript Script.refusal
  rw [running]
  split <;> rfl

theorem runScript_idle {c : Client ω} {s : Script} (idle : c.running = false) :
    c.runScript s =
      if Text.isBlankText s.name then (c, .done (.error Script.unnamed))
      else runSteps { c with running := true } s [] s.steps := by
  unfold runScript
  rw [idle]
  rfl

end Client

namespace Tab

def Executes (t : Tab ω) (flight : Nat) : Prop :=
  ∃ run, t.flights[flight]? = some (.script run)

instance (t : Tab ω) : DecidablePred t.Executes := fun flight =>
  decidable_of_iff ((t.flights[flight]?).any Flight.isScript = true) <| by
    rw [Option.any_eq_true]
    constructor
    · rintro ⟨f, found, script⟩
      obtain ⟨run, rfl⟩ := Flight.isScript_iff.mp script
      exact ⟨run, found⟩
    · rintro ⟨run, found⟩
      exact ⟨_, found, rfl⟩

/-- A script is started now: the client is marked, and the first steps are taken right away. -/
def Accepts [Transports ω] (t : Tab ω) (s : Script) : Prop :=
  t.step (.run s) = t.launchScript (Client.runSteps { t.client with running := true } s [] s.steps)

def without (t : Tab ω) (flight : Nat) : Tab ω :=
  { t with flights := t.flights.eraseIdx flight }

/-- At most one script is executing, and the client is marked while one is. -/
structure Exclusive (t : Tab ω) : Prop where
  unique : ∀ i j, t.Executes i → t.Executes j → i = j
  marked : t.client.running = true ↔ ∃ i, t.Executes i

variable {t t' : Tab ω} {f : Flight} {flight : Nat}

theorem executes_concat {c : Client ω} {guests : List Subscription} {i : Nat} :
    (Tab.mk c (t.flights ++ [f]) guests).Executes i ↔
      t.Executes i ∨ i = t.flights.length ∧ ∃ run, f = .script run := by
  unfold Executes
  rw [List.getElem?_append]
  split
  · rename_i below
    simp [Nat.ne_of_lt below]
  · rename_i above
    rw [List.getElem?_eq_none (Nat.le_of_not_lt above)]
    by_cases last : i = t.flights.length
    · simp [last]
    · have beyond : i - t.flights.length ≠ 0 := by omega
      simp [last, beyond]

theorem executes_set {c : Client ω} {guests : List Subscription}
    (below : flight < t.flights.length) {i : Nat} :
    (Tab.mk c (t.flights.set flight f) guests).Executes i ↔
      i ≠ flight ∧ t.Executes i ∨ i = flight ∧ ∃ run, f = .script run := by
  unfold Executes
  by_cases same : i = flight
  · subst same
    rw [List.getElem?_set_self below]
    simp
  · rw [List.getElem?_set_ne (Ne.symm same)]
    simp [same]

namespace Exclusive

theorem of_same (h : Exclusive t) (running : t'.client.running = t.client.running)
    (executes : ∀ i, t'.Executes i ↔ t.Executes i) : Exclusive t' := by
  refine ⟨fun i j first second => ?_, ?_⟩
  · exact h.unique i j ((executes i).mp first) ((executes j).mp second)
  · rw [running, h.marked]
    exact exists_congr fun i => (executes i).symm

theorem none_of_idle (h : Exclusive t) (idle : t.client.running = false) (i : Nat) :
    ¬ t.Executes i := by
  intro executes
  rw [h.marked.mpr ⟨i, executes⟩] at idle
  cases idle

theorem idle_of_none (h : Exclusive t) (none : ∀ i, ¬ t.Executes i) : t.client.running = false := by
  cases running : t.client.running with
  | false => rfl
  | true =>
    obtain ⟨i, executes⟩ := h.marked.mp running
    exact absurd executes (none i)

/-- One flight is a script now and no other one is. -/
theorem of_only (flight : Nat) (running : t.client.running = true)
    (only : ∀ i, t.Executes i ↔ i = flight) : Exclusive t := by
  refine ⟨fun i j first second => ?_, ?_⟩
  · rw [(only i).mp first, (only j).mp second]
  · rw [running]
    exact ⟨fun _ => ⟨flight, (only flight).mpr rfl⟩, fun _ => rfl⟩

theorem of_none (idle : t.client.running = false) (none : ∀ i, ¬ t.Executes i) : Exclusive t := by
  refine ⟨fun i j first => absurd first (none i), ?_⟩
  rw [idle]
  exact ⟨nofun, fun ⟨i, executes⟩ => absurd executes (none i)⟩

variable [Transports ω]

theorem launch (h : Exclusive t) {r : Client ω × Progress} (steady : Client.Steady t.client r.1) :
    Exclusive (t.launch r) := by
  refine h.of_same steady.running fun i => ?_
  refine executes_concat.trans (or_iff_left ?_)
  rintro ⟨_, run, script⟩
  exact Flight.ofProgress_ne_script _ _ run script

theorem launchScript (h : Exclusive t) (idle : t.client.running = false)
    {r : Client ω × ScriptProgress} (marks : Client.Marks true r) : Exclusive (t.launchScript r) := by
  have none := h.none_of_idle idle
  obtain ⟨c, result | run⟩ := r
  · refine of_none marks fun i executes => ?_
    rcases executes_concat.mp executes with before | ⟨_, run, script⟩
    · exact none i before
    · cases script
  · refine of_only t.flights.length marks fun i => executes_concat.trans ?_
    constructor
    · rintro (before | ⟨last, _⟩)
      · exact absurd before (none i)
      · exact last
    · rintro rfl
      exact .inr ⟨rfl, run, rfl⟩

theorem poll (h : Exclusive t) (flight : Nat) : Exclusive (t.poll flight) := by
  unfold Tab.poll
  split
  · rename_i job found
    have below := (List.getElem?_eq_some_iff.mp found).1
    refine h.of_same (t.client.steady_poll job).running fun i => (executes_set below).trans ?_
    constructor
    · rintro (⟨_, before⟩ | ⟨_, run, script⟩)
      · exact before
      · exact absurd script (Flight.ofProgress_ne_script _ _ run)
    · intro before
      refine .inl ⟨?_, before⟩
      rintro rfl
      obtain ⟨run, script⟩ := before
      cases script.symm.trans found
  · rename_i run found
    have below := (List.getElem?_eq_some_iff.mp found).1
    have executes : t.Executes flight := ⟨run, found⟩
    have only (i : Nat) : t.Executes i → i = flight := fun other => h.unique i flight other executes
    have marks := t.client.marks_pollScript run
    rw [h.marked.mpr ⟨flight, executes⟩] at marks
    generalize t.client.pollScript run = result at marks ⊢
    obtain ⟨c, result | run'⟩ := result
    · refine of_none marks fun i still => ?_
      rcases (executes_set below).mp still with ⟨other, before⟩ | ⟨_, run', script⟩
      · exact other (only i before)
      · cases script
    · refine of_only flight marks fun i => (executes_set below).trans ?_
      constructor
      · rintro (⟨_, before⟩ | ⟨same, _⟩)
        · exact only i before
        · exact same
      · rintro rfl
        exact .inr ⟨rfl, run', rfl⟩
  · exact h

theorem step (h : Exclusive t) (event : TabEvent ω) : Exclusive (t.step event) := by
  cases event with
  | dispatch action => exact h.launch (t.client.steady_dispatch action)
  | run script =>
    show Exclusive (t.launchScript (t.client.runScript script))
    have refused (e : Error) : Exclusive (t.launchScript (t.client, .done (.error e))) := by
      refine h.of_same rfl fun i => executes_concat.trans (or_iff_left ?_)
      rintro ⟨_, run, script⟩
      cases script
    cases running : t.client.running with
    | true =>
      rw [Client.runScript_refused running]
      exact refused _
    | false =>
      rw [Client.runScript_idle running]
      split
      · exact refused _
      · exact h.launchScript running (Client.marks_runSteps { t.client with running := true } _ _ _)
  | poll flight => exact h.poll flight
  | fire channel s => exact h.of_same (t.client.steady_deliver channel s).running fun _ => Iff.rfl
  | clear => exact h.of_same t.client.steady_clear.running fun _ => Iff.rfl
  | listen channel e =>
    show Exclusive (t.listen channel e)
    unfold Tab.listen
    split
    · exact h.of_same rfl fun _ => Iff.rfl
    · exact h
  | unlisten guest =>
    show Exclusive (t.unlisten guest)
    unfold Tab.unlisten
    split
    · exact h.of_same (t.client.steady_release _).running fun _ => Iff.rfl
    · exact h
  | pass | clearCache | setCookie | removeCookie => exact h.of_same rfl fun _ => Iff.rfl

end Exclusive

variable [Transports ω]

theorem Reachable.exclusive (reachable : Reachable t) : Exclusive t := by
  induction reachable with
  | fresh profile world today sources =>
    refine .of_none rfl fun i => ?_
    rintro ⟨run, script⟩
    cases script
  | step event _ ih => exact ih.step event

/-! ### A flight that is over -/

theorem poll_scriptEnded {result : ScriptResult} {time : Nat}
    (found : t.flights[flight]? = some (.scriptEnded result time)) : t.poll flight = t := by
  unfold poll
  rw [found]

/-- Whatever happens leaves a script that has ended as it is. -/
theorem flights_step_scriptEnded {result : ScriptResult} {time : Nat}
    (found : t.flights[flight]? = some (.scriptEnded result time)) (event : TabEvent ω) :
    (t.step event).flights[flight]? = some (.scriptEnded result time) := by
  by_cases polled : event = .poll flight
  · subst polled
    rw [step, poll_scriptEnded found]
    exact found
  · rw [flights_step_other (subject_ne (List.getElem?_eq_some_iff.mp found).1 polled)]
    exact found

theorem poll_without {polled : Nat} (other : polled ≠ flight) :
    (t.poll polled).without flight =
      (t.without flight).poll (if polled < flight then polled else polled - 1) := by
  -- The number of a flight behind the one that is left out is one less there.
  have found : (t.without flight).flights[if polled < flight then polled else polled - 1]? =
      t.flights[polled]? := by
    split
    · rename_i before
      exact List.getElem?_eraseIdx_of_lt before
    · rename_i behind
      show (t.flights.eraseIdx flight)[polled - 1]? = _
      rw [List.getElem?_eraseIdx_of_ge (by omega), Nat.sub_add_cancel (by omega)]
  have set (f : Flight) : (t.flights.set polled f).eraseIdx flight =
      (t.flights.eraseIdx flight).set (if polled < flight then polled else polled - 1) f := by
    split
    · rename_i before
      exact List.eraseIdx_set_gt before
    · exact List.eraseIdx_set_lt (by omega)
  unfold poll
  rw [found]
  split
  · exact congrArg (Tab.mk _ · _) (set _)
  · exact congrArg (Tab.mk _ · _) (set _)
  · rfl

theorem step_without {result : ScriptResult} {time : Nat}
    (found : t.flights[flight]? = some (.scriptEnded result time)) (event : TabEvent ω) :
    (t.step event).without flight =
      (event.without flight).elim (t.without flight) (t.without flight).step := by
  have below := (List.getElem?_eq_some_iff.mp found).1
  cases event with
  | dispatch | run => exact congrArg (Tab.mk _ · _) (List.eraseIdx_append_of_lt_length below _)
  | poll polled =>
    show (t.poll polled).without flight = _
    by_cases same : polled = flight
    · rw [same, poll_scriptEnded found, TabEvent.without, if_pos rfl]
      rfl
    · rw [poll_without same, TabEvent.without, if_neg same]
      rfl
  | listen channel e =>
    show (t.listen channel e).without flight = (t.without flight).listen channel e
    unfold listen without
    split <;> rfl
  | unlisten guest =>
    show (t.unlisten guest).without flight = (t.without flight).unlisten guest
    unfold unlisten without
    dsimp only
    split <;> rfl
  | _ => rfl

/-- What happens on a tab besides a script that has ended happens in the same way without it. -/
theorem run_without {result : ScriptResult} {time : Nat}
    (found : t.flights[flight]? = some (.scriptEnded result time)) (events : List (TabEvent ω)) :
    (t.run events).without flight = (t.without flight).run (events.filterMap (·.without flight)) := by
  induction events generalizing t with
  | nil => rfl
  | cons event events ih =>
    have later := ih (flights_step_scriptEnded found event)
    rw [step_without found event] at later
    refine later.trans ?_
    rw [List.filterMap_cons]
    cases event.without flight <;> rfl

/-! ### Acceptance -/

theorem step_run_refused (running : t.client.running = true) (s : Script) :
    t.step (.run s) =
      { t with flights := t.flights ++ [.scriptEnded (.error s.refusal) t.client.now] } := by
  rw [step, Client.runScript_refused running]
  rfl

theorem accepts_of_idle (idle : t.client.running = false) {s : Script}
    (named : Text.isBlankText s.name = false) : t.Accepts s := by
  rw [Accepts, step, Client.runScript_idle idle, named]
  rfl

/-- The call of a script that is refused leaves no trace but its own refusal. -/
theorem run_refused (running : t.client.running = true) (s : Script) (events : List (TabEvent ω)) :
    ((t.step (.run s)).run events).without t.flights.length =
      t.run (events.filterMap (·.without t.flights.length)) := by
  rw [step_run_refused running]
  refine (run_without List.getElem?_concat_length events).trans ?_
  rw [without, List.eraseIdx_append_of_length_le (Nat.le_refl _)]
  simp

/-- A script in flight goes on, or it has ended and the client is free. -/
theorem Executes.step {i : Nat} (executes : t.Executes i) (event : TabEvent ω) :
    (t.step event).Executes i ∨
      (∃ result time, (t.step event).flights[i]? = some (.scriptEnded result time)) ∧
        (t.step event).client.running = false := by
  obtain ⟨run, found⟩ := executes
  have below := (List.getElem?_eq_some_iff.mp found).1
  by_cases polled : event = .poll i
  · subst polled
    have marks := t.client.marks_pollScript run
    have stepped : t.step (.poll i) = t.poll i := rfl
    rw [stepped, Tab.poll, found]
    dsimp only
    generalize t.client.pollScript run = r at marks ⊢
    obtain ⟨c, result | run'⟩ := r
    · exact .inr ⟨⟨result, c.now, List.getElem?_set_self below⟩, marks⟩
    · exact .inl ⟨run', List.getElem?_set_self below⟩
  · exact .inl ⟨run, (flights_step_other (subject_ne below polled)).trans found⟩

/-- At most one script of a tab executes at any time, and the client is marked exactly while one
does. A script that is started meanwhile is refused at once and changes nothing; whatever happens
afterwards, the tab is what it would be without that call. Once the executing script has ended, in
whatever way, the next one is accepted. -/
theorem Reachable.one_script (reachable : Reachable t) :
    (∀ i j, t.Executes i → t.Executes j → i = j) ∧
      (t.client.running = true ↔ ∃ i, t.Executes i) ∧
      (∀ i, t.Executes i → ∀ s : Script,
        t.step (.run s) =
            { t with flights := t.flights ++ [.scriptEnded (.error s.refusal) t.client.now] } ∧
          ∀ events, ((t.step (.run s)).run events).without t.flights.length =
            t.run (events.filterMap (·.without t.flights.length))) ∧
      (∀ i, t.Executes i → ∀ event : TabEvent ω, (t.step event).Executes i ∨
        (∃ result time, (t.step event).flights[i]? = some (.scriptEnded result time)) ∧
          ∀ s : Script, Text.isBlankText s.name = false → (t.step event).Accepts s) ∧
      ((∀ i, ¬ t.Executes i) →
        ∀ s : Script, Text.isBlankText s.name = false → t.Accepts s) := by
  have exclusive := reachable.exclusive
  refine ⟨exclusive.unique, exclusive.marked, ?_, ?_, ?_⟩
  · intro i executes s
    have running := exclusive.marked.mpr ⟨i, executes⟩
    exact ⟨step_run_refused running s, run_refused running s⟩
  · intro i executes event
    rcases executes.step event with goes | ⟨ended, idle⟩
    · exact .inl goes
    · exact .inr ⟨ended, fun s named => accepts_of_idle idle named⟩
  · intro none s named
    exact accepts_of_idle (exclusive.idle_of_none none) named

/-- A script that loads a page after a pause: a second one is refused until the page is loaded. -/
theorem one_script_paused :
    let slow : Script := { name := "slow", steps := [⟨.get "/", some (.fixed 5)⟩] }
    let t := connected.step (.run slow)
    let later : Scenario.Servers := { t.client.world with now := 5 }
    Reachable t ∧ t.Executes 2 ∧
      (t.step (.run slow)).flights[3]? =
        some (.scriptEnded (.error (.scriptAlreadyRunning "slow")) 0) ∧
      ¬ ((t.step (.pass later 0)).step (.poll 2)).Executes 2 ∧
      ((t.step (.pass later 0)).step (.poll 2)).Accepts slow := by
  intro slow t later
  have reachable : Reachable t := connected_reachable.step _
  obtain ⟨-, -, refuses, -, -⟩ := reachable.one_script
  have executes : t.Executes 2 := by decide +kernel
  have error : slow.refusal = .scriptAlreadyRunning "slow" := if_neg (by decide +kernel)
  have count : t.flights.length = 3 := by decide +kernel
  have time : t.client.now = 0 := by decide +kernel
  have refused := congrArg (fun t' : Tab _ => t'.flights[3]?) (refuses 2 executes slow).1
  have still : (t.step (.pass later 0)).Executes 2 := by decide +kernel
  have ended : ¬ ((t.step (.pass later 0)).step (.poll 2)).Executes 2 := by decide +kernel
  obtain ⟨-, -, -, accepts, -⟩ := (reachable.step (.pass later 0)).one_script
  obtain goes | ⟨-, accepts⟩ := accepts 2 still (.poll 2)
  · exact absurd goes ended
  · refine ⟨reachable, executes, ?_, ended, accepts slow (by decide +kernel)⟩
    rw [refused, error, ← count, ← time]
    exact List.getElem?_concat_length

end Tab

end LiveSession
