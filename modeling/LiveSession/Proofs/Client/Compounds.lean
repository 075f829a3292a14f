import LiveSession.Proofs.Client.Trials

/-!
# Connects that watch

A connect that watches listens from the opening of its channel on, so what the channel dispatches
while it connects counts as well. The time of the watch begins when the channel is recorded.
`Tab.Begun` is a watch at that moment, and `Tab.Reachable.begun` says that it comes about so,
whatever happens meanwhile.
-/

namespace LiveSession

variable {ω : Type}

/-- The actions that connect a channel and watch it from its opening on. -/
def Action.compound? : Action → Option (WatchKind × ConnectWatchAction)
  | .connectAndAwaitEmit a => some (.expect, a)
  | .connectAndConfirmNoEmit a => some (.forbid fun _ => true, a)
  | _ => none

namespace Watch

variable {w : Watch} {start deadline : Nat} {heard more : List Occurrence}

def before? (w : Watch) (deadline : Nat) (heard : List Occurrence) : Option Occurrence :=
  heard.find? fun o => o.time < deadline && w.kind.counts o

theorem before?_eq_winner? :
    w.before? deadline heard = Race.winner? deadline w.kind.accept heard := by
  refine List.find?_congr fun o _ => ?_
  rw [w.kind.accept_eq o]
  cases w.kind.counts o <;> rfl

theorem counts_of_before? {o : Occurrence} (found : w.before? deadline heard = some o) :
    w.kind.counts o = true := by
  have counts := List.find?_some found
  simp only [Bool.and_eq_true] at counts
  exact counts.2

theorem before?_append_late
    (settled : (w.before? deadline heard).isSome ∨ ∀ o ∈ more, deadline ≤ o.time) :
    w.before? deadline (heard ++ more) = w.before? deadline heard := by
  have split_ : w.before? deadline (heard ++ more) =
      (w.before? deadline heard).or (w.before? deadline more) := List.find?_append
  rw [split_]
  rcases settled with found | late
  · obtain ⟨o, found⟩ := Option.isSome_iff_exists.mp found
    rw [found, Option.some_or]
  · have nothing : w.before? deadline more = none := by
      refine List.find?_eq_none.mpr fun o member => ?_
      rw [decide_eq_false (Nat.not_lt.mpr (late o member)), Bool.false_and]
      exact Bool.false_ne_true
    rw [nothing, Option.or_none]

theorem before?_since (since : ∀ o ∈ heard, start ≤ o.time) :
    w.before? (start + w.limit) heard = w.first? start heard := by
  refine List.find?_congr fun o member => ?_
  rw [decide_eq_true (since o member), Bool.true_and]

end Watch

namespace Client

variable [Transports ω] {c : Client ω} {k : List Held} {w : Watch} {channel : ChannelId}
  {base : List ChannelEvent} {opened : Nat}

/-- A watch that is carried on ends with what counts before its deadline, or with the deadline. -/
theorem Overhears.pollWatch (hears : c.Overhears (w.subscription channel) base opened)
    (h : Wired c k) (holds : .listeners (w.subscription channel) ∈ k) (deadline : Nat) :
    let first := w.before? deadline (occurrences channel [w.event] (c.history.drop base.length))
    c.pollWatch channel w deadline =
      if first.isSome ∨ deadline ≤ c.now then (c.closeWatch w first, .done (w.verdict first))
      else (c, .waiting (.watch channel w deadline)) := by
  intro first
  obtain ⟨ordered, span⟩ := hears.timed.heard channel [w.event]
  have mine : ∀ o ∈ first, o.event = w.event := fun o found =>
    List.mem_singleton.mp (event_of_mem_occurrences (List.mem_of_find?_eq_some found))
  have judged : c.judge w.race deadline w.kind.accept =
      if first.isSome ∨ deadline ≤ c.now then
        some (first.elim .elapsed fun o => .resolved o.args)
      else none := by
    refine (hears.judge h holds deadline w.kind.accept).trans ?_
    show Race.poll _ _ _ (occurrences channel [w.event] _) = _
    rw [Race.poll_eq ordered fun o member => (span o member).2, ← Watch.before?_eq_winner?]
    have known : w.before? deadline
        (occurrences channel [w.event] (c.history.drop base.length)) = first := rfl
    rw [known]
    cases found : first with
    | some o => simp [w.kind.accept_eq o, Watch.counts_of_before? found]
    | none => simp
  unfold Client.pollWatch finishWatch?
  rw [judged]
  by_cases settled : first.isSome = true ∨ deadline ≤ c.now
  · rw [if_pos settled, if_pos settled, Option.map_some, endWatch_eq _ mine]
    rfl
  · rw [if_neg settled, if_neg settled]
    rfl

end Client

namespace Tab

variable [Transports ω] {t : Tab ω} {w : Watch} {channel : ChannelId} {flight : Nat}
  {base : List ChannelEvent}

/-! ### The start of the time of a watch -/

/-- A watch whose time begins now, on a channel that has been heard since `base`: it is over at
once, with what was heard or without any time, or it has heard nothing yet. -/
inductive Begun (w : Watch) (channel : ChannelId) (flight : Nat) (base : List ChannelEvent)
    (t : Tab ω) : Prop
  | ended {added : List ChannelEvent} (history : t.client.history = base ++ added)
      (found : t.flights[flight]? = some (.actionEnded (w.verdict
        (w.before? (t.client.now + w.limit) (occurrences channel [w.event] added))) t.client.now))
      (why : (w.before? (t.client.now + w.limit) (occurrences channel [w.event] added)).isSome ∨
        w.limit = 0)
      (past : ∀ o ∈ occurrences channel [w.event] added, o.time ≤ t.client.now)
  | going {added : List ChannelEvent} (history : t.client.history = base ++ added)
      (nothing : occurrences channel [w.event] added = []) (time : w.limit ≠ 0)
      (found : t.flights[flight]? = some (.action (.watch channel w (t.client.now + w.limit))))
      (hears : t.client.Heard w.race [])

theorem begun_of_poll {c : Client ω} {k : List Held} {opened : Nat} (h : Wired c k)
    (holds : .listeners (w.subscription channel) ∈ k)
    (hears : c.Overhears (w.subscription channel) base opened)
    (all : ∀ o, w.kind.counts o = true)
    (client : t.client = (c.pollWatch channel w (c.now + w.limit)).1)
    (found : t.flights[flight]? = some (.ofProgress t.client.now
      (c.pollWatch channel w (c.now + w.limit)).2)) : Begun w channel flight base t := by
  rw [hears.pollWatch h holds] at client found
  obtain ⟨added, history, timed, heard⟩ := hears
  rw [history, List.drop_left] at client found
  have past : ∀ o ∈ occurrences channel [w.event] added, o.time ≤ c.now :=
    fun o member => ((timed.heard channel [w.event]).2 o member).2
  by_cases settled : (w.before? (c.now + w.limit) (occurrences channel [w.event] added)).isSome = true ∨
      c.now + w.limit ≤ c.now
  · rw [if_pos settled] at client found
    have still : t.client.now = c.now := by
      rw [client]
      exact congrArg Transports.now (Client.world_closeWatch _ _ _)
    have kept : t.client.history = c.history := by
      rw [client]
      exact Client.history_closeWatch _ _ _
    rw [← still] at found settled past
    exact .ended (kept.trans history) found (settled.imp_right fun none => by omega) past
  · rw [if_neg settled] at client found
    obtain ⟨unheard, time⟩ := not_or.mp settled
    have nothing : occurrences channel [w.event] added = [] := by
      refine List.eq_nil_iff_forall_not_mem.mpr fun o member => ?_
      have skipped := List.find?_eq_none.mp (Option.not_isSome_iff_eq_none.mp unheard) o member
      have early : o.time < c.now + w.limit := by
        have := past o member
        omega
      rw [all o, decide_eq_true early] at skipped
      exact skipped rfl
    have unqueued : c.Heard w.race [] := nothing ▸ heard
    obtain rfl : t.client = c := client
    exact .going history nothing (by omega) found unqueued

/-- A watch that has heard nothing yet is like one of a recorded channel that starts now. -/
theorem follows_of_heard
    (found : t.flights[flight]? = some (.action (.watch channel w (t.client.now + w.limit))))
    (hears : t.client.Heard w.race []) :
    Follows w channel t.client.now flight t.client.history True t := by
  refine ⟨[], (List.append_nil _).symm, .silent (Nat.le_refl _) rfl, .waiting found hears ?_⟩
  exact fun _ => Nat.le_add_right _ _

/-! ### The end of a watch -/

/-- The history of a run goes on from that of its start, at later times. -/
theorem Reachable.timed_run (reachable : Reachable t) (forward : Transports.Forward ω)
    {events : List (TabEvent ω)} (ahead : Forward t events) :
    ∃ more, (t.run events).client.history = t.client.history ++ more ∧
      Timed t.client.now (t.run events).client.now more := by
  induction events generalizing t with
  | nil => exact ⟨[], (List.append_nil _).symm, .silent (Nat.le_refl _) rfl⟩
  | cons event events ih =>
    obtain ⟨added, grows⟩ := t.grows forward reachable.wired event ahead.1
    obtain ⟨more, history, timed⟩ := ih (reachable.step event) ahead.2
    refine ⟨added ++ more, ?_, grows.timed.trans timed⟩
    rw [← List.append_assoc, ← grows.history]
    exact history

theorem flights_run_ended {result : ActionResult} {time : Nat}
    (found : t.flights[flight]? = some (.actionEnded result time)) (events : List (TabEvent ω)) :
    (t.run events).flights[flight]? = some (.actionEnded result time) := by
  induction events generalizing t with
  | nil => exact found
  | cons event events ih => exact ih (flights_step_ended found)

/-- An action ends with a result when it is carried on at `due` or later: it has ended so, at `due`
if nothing held it up, or it waits for that. -/
def EndsAt (flight : Nat) (result : ActionResult) (due : Nat) (prompt : Prop) (t : Tab ω) : Prop :=
  (∃ time, t.flights[flight]? = some (.actionEnded result time) ∧ due ≤ time ∧
      (prompt → time = due)) ∨
    ∃ job, t.flights[flight]? = some (.action job) ∧ (prompt → t.client.now ≤ due) ∧
      (∀ event, event ≠ .poll flight →
        (t.step event).flights[flight]? = some (.action job)) ∧
      (t.client.now < due → t.step (.poll flight) = t) ∧
      (due ≤ t.client.now →
        (t.step (.poll flight)).flights[flight]? = some (.actionEnded result t.client.now))

theorem Watched.endsAt {start : Nat} {added : List ChannelEvent} {prompt : Prop}
    (h : Wired t.client t.held) (timed : Timed start t.client.now added)
    (watched : Watched w channel start flight prompt (occurrences channel [w.event] added) t) :
    t.EndsAt flight (w.verdict (w.first? start (occurrences channel [w.event] added)))
      (w.due start (w.first? start (occurrences channel [w.event] added))) prompt := by
  cases watched with
  | ended time found reached past onTime => exact .inl ⟨time, found, reached, onTime⟩
  | waiting found queue onTime =>
    have polled := poll_watch h timed found queue
    obtain ⟨below, _⟩ := List.getElem?_eq_some_iff.mp found
    refine .inr ⟨_, found, onTime, ?_, ?_, ?_⟩
    · exact fun event other => (flights_step_other (subject_ne below other)).trans found
    · exact fun before => polled.trans (if_neg (Nat.not_le.mpr before))
    · intro reached
      rw [polled.trans (if_pos reached)]
      exact List.getElem?_set_self below

/-- When the time of a watch begins at `start`, what was heard before counts as well. -/
theorem Begun.endsAt (begun : Begun w channel flight base t) (reachable : Reachable t)
    (forward : Transports.Forward ω) {late : List (TabEvent ω)} (ahead : Forward t late) :
    let t' := t.run late
    let first := w.before? (t.client.now + w.limit)
      (occurrences channel [w.event] (t'.client.history.drop base.length))
    t'.EndsAt flight (w.verdict first)
      (max t.client.now (first.elim (t.client.now + w.limit) Occurrence.time))
      (Prompt flight t late) := by
  intro t' first
  cases begun with
  | ended history found why past =>
    rename_i added
    obtain ⟨more, later, timed⟩ := reachable.timed_run forward ahead
    have heard : occurrences channel [w.event] (t'.client.history.drop base.length) =
        occurrences channel [w.event] added ++ occurrences channel [w.event] more := by
      rw [← occurrences_append, later, history, List.append_assoc, List.drop_left]
    -- What comes later is too late to make a difference.
    have same : first = w.before? (t.client.now + w.limit) (occurrences channel [w.event] added) := by
      unfold first
      rw [heard]
      refine Watch.before?_append_late (why.imp_right fun instant o member => ?_)
      rw [instant, Nat.add_zero]
      exact ((timed.heard channel [w.event]).2 o member).1
    have due : max t.client.now (first.elim (t.client.now + w.limit) Occurrence.time) =
        t.client.now := by
      refine Nat.max_eq_left ?_
      cases found : first with
      | some o => exact past o (List.mem_of_find?_eq_some (same.symm.trans found))
      | none =>
        rw [same] at found
        rw [found] at why
        rw [Option.elim_none, why.resolve_left nofun]
        exact Nat.le_refl _
    rw [← same] at found
    exact .inl ⟨t.client.now, flights_run_ended found late, Nat.le_of_eq due, fun _ => due.symm⟩
  | going history nothing time found hears =>
    rename_i added
    obtain ⟨more, later, timed, watched⟩ :=
      (follows_of_heard found hears).run reachable forward ahead
    have span := (timed.heard channel [w.event]).2
    have heard : occurrences channel [w.event] (t'.client.history.drop base.length) =
        occurrences channel [w.event] more := by
      rw [later, history, List.append_assoc, List.drop_left, occurrences_append, nothing,
        List.nil_append]
    have same : first = w.first? t.client.now (occurrences channel [w.event] more) := by
      unfold first
      rw [heard]
      exact Watch.before?_since fun o member => (span o member).1
    have due : max t.client.now (first.elim (t.client.now + w.limit) Occurrence.time) =
        w.due t.client.now (w.first? t.client.now (occurrences channel [w.event] more)) := by
      rw [same]
      refine Nat.max_eq_right ?_
      cases found : w.first? t.client.now (occurrences channel [w.event] more) with
      | some o => exact (span o (Watch.first?_mem found)).1
      | none => exact Nat.le_add_right _ _
    rw [same] at due ⊢
    rw [due]
    have wired := (reachable.run late).wired
    exact (watched.imp fun prompt => ⟨trivial, prompt⟩).endsAt wired timed

end Tab

/-! ### From the opening to the time of the watch -/

namespace Client

variable [Transports ω]

def compoundWatch (c : Client ω) (kind : WatchKind) (a : ConnectWatchAction) : Watch :=
  { kind
    ns := c.profile.namespaceOf a.ns
    event := a.event
    race := c.started
    limit := ((c.draw (c.profile.timeout (a.connectTimeout <|> a.timeout))).1.draw
      (c.profile.timeout a.timeout)).2 }

/-- The client when the limits of such an action are drawn. -/
def compoundDrawn (c : Client ω) (a : ConnectWatchAction) : Client ω :=
  ((c.draw (c.profile.timeout (a.connectTimeout <|> a.timeout))).1.draw
    (c.profile.timeout a.timeout)).1

theorem dispatch_compound {action : Action} {kind : WatchKind} {a : ConnectWatchAction}
    (compound : action.compound? = some (kind, a)) (c : Client ω) :
    c.dispatch action =
      match (c.compoundDrawn a).openChannel action.kind (c.profile.namespaceOf a.ns) with
      | (c', .error e) => (c', .done (.error e))
      | (c', .ok p) => (c'.install p.channel.handle [a.event]).1.establish p
          (c.draw (c.profile.timeout (a.connectTimeout <|> a.timeout))).2
          (some { c.compoundWatch kind a with race := c'.started }) := by
  cases action with
  | connectAndAwaitEmit | connectAndConfirmNoEmit =>
    cases compound
    rfl
  | _ => cases compound

end Client

namespace Tab

variable [Transports ω] {t : Tab ω} {w : Watch} {handle : ChannelId} {flight : Nat}
  {base : List ChannelEvent} {p : PendingChannel}

def Records (handle : ChannelId) (t : Tab ω) : Prop :=
  handle ∈ t.client.recordings.map PagedChannel.handle

/-- The events bring about what was not so before the last of them. -/
def FirstAfter (P : Tab ω → Prop) : Tab ω → List (TabEvent ω) → Prop
  | t, [] => P t
  | t, event :: events => ¬ P t ∧ FirstAfter P (t.step event) events

/-- An action that connects a channel and watches it, until the time of its watch begins. -/
inductive Compound (w : Watch) (handle : ChannelId) (flight : Nat) (base : List ChannelEvent)
    (t : Tab ω) : Prop
  | trying {p : PendingChannel} {race : RaceId} {limit deadline opened : Nat}
      (own : p.channel.handle = handle)
      (trying : t.Trying flight p race limit deadline (some w) base opened)
  | begun (begun : Begun w handle flight base t) (records : Records handle t)
  | refused (givenUp : t.GivenUp handle)

omit [Transports ω] in
theorem connects_of_compound {action : Action} {kind : WatchKind} {a : ConnectWatchAction}
    (compound : action.compound? = some (kind, a)) : action.connects = true := by
  cases action with
  | connectAndAwaitEmit | connectAndConfirmNoEmit => rfl
  | _ => cases compound

theorem settle {c : Client ω} {k : List Held} {opened : Nat} {recorded : Except Error Unit}
    (h : Wired c k) (holds : .listeners (w.subscription p.channel.handle) ∈ k)
    (hears : c.Overhears (w.subscription p.channel.handle) base opened)
    (all : ∀ o, w.kind.counts o = true) (concludes : c.Concludes p recorded)
    (client : t.client = (c.afterConnect p.channel (some w) recorded).1)
    (found : t.flights[flight]? = some (.ofProgress t.client.now
      (c.afterConnect p.channel (some w) recorded).2)) :
    (Begun w p.channel.handle flight base t ∧ Records p.channel.handle t) ∨
      ∃ e, e.endsAttempt = true ∧
        t.flights[flight]? = some (.actionEnded (.error e) t.client.now) := by
  cases recorded with
  | ok =>
    refine .inl ⟨begun_of_poll h holds hears all client found, ?_⟩
    have watched := Client.pollWatch_acts (k := []) c p.channel.handle w (c.now + w.limit)
    unfold Records
    rw [client]
    exact List.mem_map_of_mem (watched.recordings_prefix.subset concludes.1)
  | error e => exact .inr ⟨e, concludes, found⟩

section Start

variable {action : Action} {kind : WatchKind} {a : ConnectWatchAction} {c : Client ω}
  (reachable : Reachable t)

include reachable

theorem opens_compound (compound : action.compound? = some (kind, a))
    (opened : (t.client.compoundDrawn a).openChannel action.kind
      (t.client.profile.namespaceOf a.ns) = (c, .ok p)) :
    t.Opens action p (t.client.draw (t.client.profile.timeout (a.connectTimeout <|> a.timeout))).2
      (some (t.client.compoundWatch kind a)) (c.install p.channel.handle [a.event]).1 := by
  rcases (t.client.compoundDrawn a).openChannel_cases action.kind
    (t.client.profile.namespaceOf a.ns) with
    ⟨_, _, failed, _⟩ | ⟨_, _, opened', _, own, first, history⟩
  · cases opened.symm.trans failed
  cases opened.symm.trans opened'
  have drawn : Wired (t.client.compoundDrawn a) t.held :=
    reachable.wired.of_eq rfl rfl rfl reachable.wired.recorded
  have acts := Client.openChannel_acts (k := t.held) (t.client.compoundDrawn a) action.kind
    (t.client.profile.namespaceOf a.ns)
  rw [opened] at acts
  have wired : Wired c (.channel p :: t.held) := drawn.acts acts
  have installed := wired.install (wired.pending p List.mem_cons_self)
    (List.nodup_singleton a.event)
  have hears := Client.overhears_install wired history rfl p.channel.handle [a.event]
  have dispatched := Client.dispatch_compound compound t.client
  rw [opened] at dispatched
  dsimp only at dispatched
  rw [first] at installed hears dispatched
  refine ⟨dispatched, installed.perm (.swap _ _ _), own, history, ?_⟩
  rintro _ ⟨⟩
  exact hears

theorem compound_start (forward : Transports.Forward ω)
    (compound : action.compound? = some (kind, a)) (all : ∀ o, kind.counts o = true)
    (opens : t.client.channels.length < (t.step (.dispatch action)).client.channels.length) :
    Compound (t.client.compoundWatch kind a) t.client.channels.length t.flights.length
      t.client.history (t.step (.dispatch action)) := by
  rcases (t.client.compoundDrawn a).openChannel_cases action.kind
    (t.client.profile.namespaceOf a.ns) with ⟨c, e, failed, same⟩ | ⟨c, p, opened, _⟩
  · have closed : (t.step (.dispatch action)).client.channels = t.client.channels := by
      rw [step, Client.dispatch_compound compound, failed]
      exact same
    exact absurd opens (by rw [closed]; exact Nat.lt_irrefl _)
  have opens := opens_compound reachable compound opened
  generalize (c.install p.channel.handle [a.event]).1 = c at opens
  generalize (t.client.draw (t.client.profile.timeout (a.connectTimeout <|> a.timeout))).2 = limit
    at opens
  cases tried : c.tryConnect p limit with
  | mk c' outcome =>
    cases outcome with
    | none => exact .trying opens.handle (opens.trying forward tried)
    | some recorded =>
      obtain ⟨client, found⟩ := opens.launched tried
      rcases settle (opens.wired_over tried) List.mem_cons_self
        (opens.watches_over tried forward rfl) all (Client.concludes_tryConnect tried) client found with
        ⟨begun, records⟩ | ⟨e, ends, ended⟩
      · rw [opens.handle] at begun records
        exact .begun begun records
      · have new : (p.page, p.channel) ∉ t.client.openings := fun old =>
          Nat.ne_of_lt (reachable.charted.lt_of_opened old) opens.handle
        exact .refused (opens.handle ▸ reachable.refused_at_once (connects_of_compound compound)
          ended ends (opens.mem_openings forward) new)

end Start

theorem Compound.step {event : TabEvent ω} (reachable : Reachable t)
    (forward : Transports.Forward ω) (ahead : t.client.now ≤ (t.step event).client.now)
    (all : ∀ o, w.kind.counts o = true) (compound : Compound w handle flight base t)
    (before : ¬ Records handle t) : Compound w handle flight base (t.step event) := by
  cases compound with
  | begun _ records => exact absurd records before
  | refused givenUp => exact .refused fun events => givenUp (event :: events)
  | trying own trying =>
    rename_i p race limit deadline opened
    by_cases polled : event = .poll flight
    · subst polled
      cases settled : t.client.attempt? p race limit deadline with
      | none =>
        rw [trying.poll_going settled]
        exact .trying own trying
      | some attempt =>
        obtain ⟨c, recorded⟩ := attempt
        obtain ⟨client, found⟩ := trying.poll_over settled
        obtain ⟨others, wired⟩ := trying.wired_over reachable settled
        rcases settle wired List.mem_cons_self (trying.watches_over reachable forward rfl settled) all
          (Client.concludes_attempt settled) client found with ⟨begun, records⟩ | ⟨e, ends, ended⟩
        · rw [own] at begun records
          exact .begun begun records
        · exact .refused (own ▸ reachable.refused trying.found rfl ended ends)
    · exact .trying own (trying.step_other reachable forward ahead polled)

theorem Compound.run {events : List (TabEvent ω)} (reachable : Reachable t)
    (forward : Transports.Forward ω) (ahead : Forward t events)
    (all : ∀ o, w.kind.counts o = true) (compound : Compound w handle flight base t)
    (records : FirstAfter (Records handle) t events) :
    Begun w handle flight base (t.run events) := by
  -- A step keeps `Compound` until the channel is recorded, which the last of the events does.
  induction events generalizing t with
  | nil =>
    cases compound with
    | begun begun _ => exact begun
    | refused givenUp => exact absurd records (givenUp []).2
    | trying own trying => exact absurd (own ▸ records) (trying.not_recorded reachable)
  | cons event events ih =>
    have next := compound.step reachable forward ahead.1 all records.1
    exact ih (reachable.step event) ahead.2 next records.2

/-- The time of the watch begins when the channel is recorded, and what was heard before counts. -/
theorem Reachable.begun {action : Action} {kind : WatchKind} {a : ConnectWatchAction}
    {early : List (TabEvent ω)} (reachable : Reachable t) (forward : Transports.Forward ω)
    (compound : action.compound? = some (kind, a)) (all : ∀ o, kind.counts o = true)
    (opens : t.client.channels.length < (t.step (.dispatch action)).client.channels.length)
    (ahead : Forward (t.step (.dispatch action)) early)
    (records : FirstAfter (Records t.client.channels.length) (t.step (.dispatch action)) early) :
    Begun (t.client.compoundWatch kind a) t.client.channels.length t.flights.length
      t.client.history ((t.step (.dispatch action)).run early) :=
  (compound_start reachable forward compound all opens).run (reachable.step _) forward ahead all
    records

end Tab

end LiveSession
