import LiveSession.Proofs.Client.Underway
import LiveSession.Proofs.Script.Performance

/-!
# How attempts start

An attempt to connect is started by an action that opens a channel, and an action is dispatched by
itself or as a step of a script, which may perform several steps at once. `Client.Begins` is an
action that starts an attempt, `Tab.Dispatches` an event that dispatches an action, and
`Tab.GoesOn` what the flight has come to after that.
-/

namespace LiveSession

variable {ω : Type} [Transports ω]

/-! ### Actions -/

namespace Client

/-- An action opens a channel: `c'` connects it within a limit, and a watch may follow. -/
inductive Begins (c : Client ω) : Action → PendingChannel → Nat → Option Watch → Client ω → Prop
  | plain {a : ConnectAction} {p : PendingChannel} {c' : Client ω}
      (opened : (c.draw (c.profile.timeout a.timeout)).1.openChannel .channelConnect
        (c.profile.namespaceOf a.ns) = (c', .ok p)) :
      Begins c (.connect a) p (c.draw (c.profile.timeout a.timeout)).2 none c'
  | watched {action : Action} {kind : WatchKind} {a : ConnectWatchAction} {p : PendingChannel}
      {c' : Client ω} (compound : action.compound? = some (kind, a))
      (opened : (c.compoundDrawn a).openChannel action.kind (c.profile.namespaceOf a.ns) =
        (c', .ok p)) :
      Begins c action p (c.draw (c.profile.timeout (a.connectTimeout <|> a.timeout))).2
        (some (c.compoundWatch kind a)) (c'.install p.channel.handle [a.event]).1

variable {c c' c'' : Client ω} {k : List Held} {action : Action} {p : PendingChannel} {limit : Nat}
  {next : Option Watch}

/-- An action that connects a channel fails before it opens one, or it starts an attempt. -/
theorem begins_cases (connects : action.connects = true) (c : Client ω) :
    (∃ c' e, c.dispatch action = (c', .done (.error e)) ∧ c'.channels = c.channels) ∨
      ∃ p limit next c', c.Begins action p limit next c' := by
  have watched {kind : WatchKind} {a : ConnectWatchAction}
      (compound : action.compound? = some (kind, a)) :
      (∃ c' e, c.dispatch action = (c', .done (.error e)) ∧ c'.channels = c.channels) ∨
        ∃ p limit next c', c.Begins action p limit next c' := by
    rcases (c.compoundDrawn a).openChannel_cases action.kind (c.profile.namespaceOf a.ns) with
      ⟨c', e, failed, same⟩ | ⟨_, _, opened, _⟩
    · refine .inl ⟨c', e, ?_, same⟩
      rw [dispatch_compound compound, failed]
    · exact .inr ⟨_, _, _, _, .watched compound opened⟩
  cases action with
  | connect a =>
    rcases (c.draw (c.profile.timeout a.timeout)).1.openChannel_cases .channelConnect
      (c.profile.namespaceOf a.ns) with ⟨c', e, failed, same⟩ | ⟨_, _, opened, _⟩
    · refine .inl ⟨c', e, ?_, same⟩
      rw [dispatch_connect, failed]
    · exact .inr ⟨_, _, _, _, .plain opened⟩
  | connectAndAwaitEmit a | connectAndConfirmNoEmit a => exact watched rfl
  | _ => cases connects

theorem openChannel_ok {kind : ActionKind} {ns : String}
    (opened : c.openChannel kind ns = (c', .ok p)) :
    c'.started = c.started ∧ c'.history = c.history ++ [.opened p.page p.channel] := by
  rcases c.openChannel_cases kind ns with ⟨_, _, failed, _⟩ | ⟨_, _, opened', _, _, first, history⟩
  · cases opened.symm.trans failed
  · cases opened.symm.trans opened'
    exact ⟨first, history⟩

theorem current_openChannel {kind : ActionKind} {ns : String}
    (opened : c.openChannel kind ns = (c', .ok p)) : c'.pageId? = some p.page := by
  unfold openChannel Session.requirePage at opened
  cases page : c.session.page with
  | none =>
    rw [page] at opened
    cases opened
  | some page' =>
    rw [page] at opened
    dsimp only at opened
    split at opened
    · cases opened
    · split at opened
      · cases opened
      · cases opened
        show c.session.page.map Page.id = _
        rw [page]
        rfl

namespace Begins

theorem dispatch_eq (begins : c.Begins action p limit next c') :
    c.dispatch action = c'.establish p limit next := by
  cases begins with
  | plain opened => rw [dispatch_connect, opened]
  | watched compound opened =>
    rw [dispatch_compound compound, opened]
    dsimp only
    rw [(openChannel_ok opened).1]
    rfl

theorem history (begins : c.Begins action p limit next c') :
    c'.history = c.history ++ [.opened p.page p.channel] := by
  cases begins with
  | plain opened | watched _ opened => exact (openChannel_ok opened).2

theorem current (begins : c.Begins action p limit next c') : c'.pageId? = some p.page := by
  cases begins with
  | plain opened => exact current_openChannel opened
  | watched _ opened =>
    exact (background_install _ _ _).unmoved.pageId.trans (current_openChannel opened)

theorem acts (begins : c.Begins action p limit next c') :
    Acts c k c' (.channel p :: (heldNext p.channel.handle next ++ k)) := by
  cases begins with
  | plain opened =>
    rename_i a
    have acts := openChannel_acts (k := k) (c.draw (c.profile.timeout a.timeout)).1 .channelConnect
      (c.profile.namespaceOf a.ns)
    rw [opened] at acts
    exact (draw_acts c _).trans acts
  | watched compound opened =>
    rename_i kind a c₁
    have acts := openChannel_acts (k := k) (c.compoundDrawn a) action.kind
      (c.profile.namespaceOf a.ns)
    rw [opened] at acts
    have known : Known c₁ (.channel p :: k) p.channel.handle := .held List.mem_cons_self
    have installed := acts.then_act (.install known (List.nodup_singleton a.event))
    rw [(openChannel_ok opened).1] at installed
    exact ((draw_acts c _).trans (draw_acts _ _)).trans (installed.then_act (.swap _ _))

end Begins

/-! ### Steps of a script -/

/-- Steps of a script that are performed at once, up to the action of one of them. -/
inductive Reaches (s : Script) :
    Client ω → List Outcome → List ScriptStep → Client ω → Action → ScriptRun → Prop
  | here {c : Client ω} {outcomes : List Outcome} {step : ScriptStep} {rest : List ScriptStep}
      (instant : (c.drawDelay s step).2 = 0) :
      Reaches s c outcomes (step :: rest) (c.drawDelay s step).1 step.action
        (atStep s outcomes step rest)
  | next {c c' c'' : Client ω} {outcomes : List Outcome} {step : ScriptStep}
      {rest : List ScriptStep} {o : Outcome} {action : Action} {r : ScriptRun}
      (instant : (c.drawDelay s step).2 = 0)
      (performed : (c.drawDelay s step).1.dispatch step.action = (c', .done (.ok o)))
      (later : Reaches s c' (outcomes ++ [o]) rest c'' action r) :
      Reaches s c outcomes (step :: rest) c'' action r

variable {s : Script} {r : ScriptRun} {outcomes : List Outcome} {steps : List ScriptStep}

namespace Reaches

theorem runSteps_eq (reaches : Reaches s c outcomes steps c' action r) :
    c.runSteps s outcomes steps = afterStep r (c'.dispatch action) := by
  induction reaches with
  | here instant =>
    rw [runSteps_cons]
    dsimp only
    rw [instant, if_neg (Nat.lt_irrefl 0)]
  | next instant performed later ih =>
    rw [runSteps_cons]
    dsimp only
    rw [instant, if_neg (Nat.lt_irrefl 0), performed, ← ih]
    rfl

theorem acts (reaches : Reaches s c outcomes steps c' action r) : Acts c k c' k := by
  induction reaches with
  | here instant => exact drawDelay_acts _ _ _
  | next instant performed later ih =>
    rename_i c c' c'' outcomes step rest o action r
    have started := dispatch_acts (k := k) (c.drawDelay s step).1 step.action
    rw [performed] at started
    exact ((drawDelay_acts c s step).trans started).trans ih

end Reaches

/-- The current action of a script is started or carried on, if it can be. -/
def carryOn? (c : Client ω) (r : ScriptRun) : Option (Client ω × Progress) :=
  match r.phase with
  | .delay action due => if due ≤ c.now then some (c.dispatch action) else none
  | .act job => some (c.poll job)

theorem pollScript_of_carryOn? {after : Client ω × Progress} (carried : c.carryOn? r = some after) :
    c.pollScript r = afterStep r after := by
  unfold carryOn? at carried
  unfold pollScript
  cases phase : r.phase with
  | delay action due =>
    rw [phase] at carried
    dsimp only at carried ⊢
    split at carried
    · rename_i passed
      rw [if_pos passed, Option.some.inj carried]
    · cases carried
  | act job =>
    rw [phase] at carried
    dsimp only at carried ⊢
    rw [Option.some.inj carried]

theorem carryOn?_acts {after : Client ω × Progress} (carried : c.carryOn? r = some after) :
    Acts c r.held after.1 after.2.held := by
  unfold carryOn? at carried
  unfold ScriptRun.held
  cases phase : r.phase with
  | delay action due =>
    rw [phase] at carried
    dsimp only at carried ⊢
    split at carried
    · cases Option.some.inj carried
      have acts := dispatch_acts (k := []) c action
      rwa [List.append_nil] at acts
    · cases carried
  | act job =>
    rw [phase] at carried
    dsimp only at carried ⊢
    cases Option.some.inj carried
    have acts := poll_acts (k := []) c job
    rwa [List.append_nil, List.append_nil] at acts

end Client

/-! ### Events -/

namespace Tab

def job? (t : Tab ω) (flight : Nat) : Option Job :=
  t.flights[flight]?.bind Flight.job?

/-- An event dispatches an action on the client `c`, for a flight: a new one, or a script. -/
inductive Dispatches (t : Tab ω) : TabEvent ω → Nat → Client ω → Action → Prop
  | action (action : Action) : Dispatches t (.dispatch action) t.flights.length t.client action
  /-- As a step of a script that is started. -/
  | started {s : Script} {c : Client ω} {action : Action} {r : ScriptRun}
      (named : Text.isBlankText s.name = false) (idle : t.client.running = false)
      (reaches : Client.Reaches s { t.client with running := true } [] s.steps c action r) :
      Dispatches t (.run s) t.flights.length c action
  /-- As the step of a script whose delay has passed. -/
  | delayed {flight due : Nat} {r : ScriptRun} {action : Action}
      (found : t.flights[flight]? = some (.script r)) (phase : r.phase = .delay action due)
      (passed : due ≤ t.client.now) : Dispatches t (.poll flight) flight t.client action
  /-- As a step of a script after one that has succeeded. -/
  | later {flight : Nat} {r r' : ScriptRun} {c c' : Client ω} {o : Outcome} {action : Action}
      (found : t.flights[flight]? = some (.script r))
      (carried : t.client.carryOn? r = some (c, .done (.ok o)))
      (reaches : Client.Reaches r.script c (r.outcomes ++ [o]) r.rest c' action r') :
      Dispatches t (.poll flight) flight c' action

/-- An action of a flight has come to `after`: that is where the flight stands, if it is the action
itself, and a script has taken it from there. -/
inductive GoesOn (t : Tab ω) (flight : Nat) (after : Client ω × Progress) : Prop
  | action (client : t.client = after.1)
      (found : t.flights[flight]? = some (.ofProgress after.1.now after.2))
  | script {r : ScriptRun} (client : t.client = (Client.afterStep r after).1)
      (found : t.flights[flight]? =
        some (.ofScript (Client.afterStep r after).1.now (Client.afterStep r after).2))

variable {t : Tab ω} {event : TabEvent ω} {flight : Nat} {c : Client ω} {action : Action}
  {f : Flight} {job : Job} {after : Client ω × Progress}

omit [Transports ω] in
theorem job?_of_found (found : t.flights[flight]? = some f) : t.job? flight = f.job? := by
  rw [job?, found, Option.bind_some]

omit [Transports ω] in
theorem found_of_job? (waits : t.job? flight = some job) :
    ∃ f, t.flights[flight]? = some f ∧ f.job? = some job :=
  Option.bind_eq_some_iff.mp waits

omit [Transports ω] in
theorem phase_of_job? {r : ScriptRun} (waits : (Flight.script r).job? = some job) :
    r.phase = .act job := by
  unfold Flight.job? at waits
  dsimp only at waits
  split at waits
  · cases waits
  · rename_i phase
    exact phase.trans (congrArg _ (Option.some.inj waits))

namespace GoesOn

theorem waiting (goes : t.GoesOn flight (c, .waiting job)) :
    t.client = c ∧ t.job? flight = some job := by
  cases goes with
  | action client found => exact ⟨client, job?_of_found found⟩
  | script client found => exact ⟨client, job?_of_found found⟩

theorem acts (goes : t.GoesOn flight after) :
    Acts after.1 after.2.held t.client (t.heldBy flight) := by
  cases goes with
  | action client found =>
    rw [client, heldBy_of_flight found, Flight.held_ofProgress]
    exact .refl
  | script client found =>
    rename_i r
    have acts := Client.afterStep_acts (k := []) r after.1 after.2
    rw [List.append_nil, List.append_nil] at acts
    rw [client, heldBy_of_flight found, Flight.held_ofScript]
    exact acts

end GoesOn

theorem goesOn_script {r r' : ScriptRun} (found : t.flights[flight]? = some (.script r))
    (went : t.client.pollScript r = Client.afterStep r' after) :
    (t.step (.poll flight)).GoesOn flight after := by
  obtain ⟨below, _⟩ := List.getElem?_eq_some_iff.mp found
  rw [step, poll_script found, went]
  exact .script rfl (List.getElem?_set_self below)

theorem goesOn_poll (waits : t.job? flight = some job) :
    (t.step (.poll flight)).GoesOn flight (t.client.poll job) := by
  obtain ⟨f, found, waits⟩ := found_of_job? waits
  cases f with
  | action job' =>
    cases waits
    obtain ⟨below, _⟩ := List.getElem?_eq_some_iff.mp found
    rw [step, poll_action found]
    exact .action rfl (List.getElem?_set_self below)
  | script r =>
    have carried : t.client.carryOn? r = some (t.client.poll job) := by
      unfold Client.carryOn?
      rw [phase_of_job? waits]
    exact goesOn_script found (Client.pollScript_of_carryOn? carried)
  | _ => cases waits

namespace Dispatches

theorem goesOn (dispatches : t.Dispatches event flight c action) :
    (t.step event).GoesOn flight (c.dispatch action) := by
  cases dispatches with
  | action action => exact .action rfl List.getElem?_concat_length
  | started named idle reaches =>
    rename_i s r
    have ran : t.client.runScript s = Client.afterStep r (c.dispatch action) :=
      (Client.runScript_accepted named idle).trans reaches.runSteps_eq
    rw [step, ran]
    exact .script rfl List.getElem?_concat_length
  | delayed found phase passed =>
    rename_i due r
    have carried : t.client.carryOn? r = some (t.client.dispatch action) := by
      unfold Client.carryOn?
      rw [phase]
      exact if_pos passed
    exact goesOn_script found (Client.pollScript_of_carryOn? carried)
  | later found carried reaches =>
    rename_i r r' c₀ o
    have ran : t.client.pollScript r = Client.afterStep r' (c.dispatch action) :=
      (Client.pollScript_of_carryOn? carried).trans reaches.runSteps_eq
    exact goesOn_script found ran

theorem subject_eq (dispatches : t.Dispatches event flight c action) :
    t.subject event = some flight := by
  cases dispatches <;> rfl

/-- Nothing is held for the flight when the action is dispatched. -/
theorem acts (dispatches : t.Dispatches event flight c action) :
    Acts t.client (t.heldBy flight) c [] := by
  cases dispatches with
  | action action =>
    rw [heldBy_length]
    exact .refl
  | started named idle reaches =>
    have running : Acts t.client [] { t.client with running := true } [] :=
      Client.quiet_acts ⟨rfl, rfl, rfl, rfl, rfl, rfl, fun _ => rfl⟩ rfl
    rw [heldBy_length]
    exact running.trans reaches.acts
  | delayed found phase passed =>
    have nothing : t.heldBy flight = [] := by
      rw [heldBy_of_flight found]
      simp only [Flight.held, ScriptRun.held, phase]
    rw [nothing]
    exact .refl
  | later found carried reaches =>
    rw [heldBy_of_flight found]
    exact (Client.carryOn?_acts carried).trans reaches.acts

end Dispatches

/-- What is held besides the flight that an event starts or carries on stays as it is. -/
theorem held_subject (moves : t.subject event = some flight) :
    ∃ others, t.held.Perm (t.heldBy flight ++ others) ∧
      (t.step event).held.Perm ((t.step event).heldBy flight ++ others) := by
  cases event with
  | dispatch action =>
    cases moves
    refine ⟨t.held, ?_, ?_⟩
    · rw [heldBy_length]
      exact .refl _
    · rw [step, heldBy_launch]
      exact held_launch t _
  | run s =>
    cases moves
    refine ⟨t.held, ?_, ?_⟩
    · rw [heldBy_length]
      exact .refl _
    · rw [step, heldBy_launchScript]
      exact held_launchScript t _
  | poll polled =>
    cases moves
    exact t.held_poll flight
  | _ => cases moves

end Tab

end LiveSession
