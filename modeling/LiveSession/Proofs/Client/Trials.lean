import LiveSession.Proofs.Client.Fates
import LiveSession.Proofs.Client.Verdicts

/-!
# Trials

An attempt to connect from its start to its end. While it goes on, its race and the one of a watch
that is to follow hear what the channel dispatches, from the opening on. `Client.tryConnect` starts
an attempt and `Client.attempt?` is its end, once it is known; what the action does afterwards is
left out of both.
-/

namespace LiveSession

variable {ω : Type}

/-! ### What a race has heard since -/

namespace Client

variable [Transports ω] {c c' : Client ω} {k k' : List Held} {s : Subscription} {race : RaceId}
  {heard : List Occurrence} {base more : List ChannelEvent} {opened : Nat}

/-- A race has heard what its channel has dispatched since the history was `base`. -/
def Overhears (c : Client ω) (s : Subscription) (base : List ChannelEvent) (opened : Nat) : Prop :=
  ∃ added, c.history = base ++ added ∧ Timed opened c.now added ∧
    c.Heard s.race (occurrences s.channel s.events added)

theorem overhears_install (h : Wired c k) (history : c.history = base ++ more)
    (silent : dispatches more = []) (channel : ChannelId) (events : List String) :
    (c.install channel events).1.Overhears ⟨c.started, channel, events⟩ base c.now := by
  refine ⟨more, history, .silent (Nat.le_refl _) silent, ?_⟩
  rw [occurrences_silent silent]
  exact heard_install h channel events

namespace Overhears

theorem of_heard (hears : c.Heard s.race []) : c.Overhears s c.history c.now :=
  ⟨[], (List.append_nil _).symm, .silent (Nat.le_refl _) rfl, hears⟩

theorem timed (hears : c.Overhears s base opened) :
    Timed opened c.now (c.history.drop base.length) := by
  obtain ⟨added, history, timed, _⟩ := hears
  rw [history, List.drop_left]
  exact timed

variable (hears : c.Overhears s base opened) (h : Wired c k) (holds : .listeners s ∈ k)

include hears h holds

theorem grows (grows : Grows c c' more) : c'.Overhears s base opened := by
  obtain ⟨added, history, timed, heard⟩ := hears
  refine ⟨added ++ more, ?_, timed.trans grows.timed, ?_⟩
  · rw [grows.history, history, List.append_assoc]
  · rw [occurrences_append]
    exact heard.grows h holds grows

theorem acts (forward : Transports.Forward ω) (acts : Acts c k c' k') :
    c'.Overhears s base opened := by
  obtain ⟨_, grown⟩ := acts.grows forward h
  exact hears.grows h holds grown

theorem judge (deadline : Nat) {α : Type} (accept : Occurrence → Option α) :
    c.judge s.race deadline accept = Race.poll deadline accept c.now
      (occurrences s.channel s.events (c.history.drop base.length)) := by
  obtain ⟨added, history, _, heard⟩ := hears
  unfold Client.judge
  rw [heard.queue h holds, history, List.drop_left]

end Overhears

/-! ### The end of an attempt -/

/-- What an attempt leaves: its channel is recorded on the current page, or it has ended with an
error of its own. -/
def Concludes (c : Client ω) (p : PendingChannel) : Except Error Unit → Prop
  | .ok () => (p.page, p.channel) ∈ c.recordings ∧
      ∃ page, c.session.page = some page ∧ page.channels.find? p.channel.ns = some p.channel
  | .error e => e.endsAttempt = true

/-- The end of an attempt, once it is known. -/
def attempt? (c : Client ω) (p : PendingChannel) (race : RaceId) (limit deadline : Nat) :
    Option (Client ω × Except Error Unit) :=
  (c.judge race deadline connectVerdict).map fun result =>
    (c.release race).finishConnect p limit result

/-- An attempt that is started, and its end if it is over at once. -/
def tryConnect (c : Client ω) (p : PendingChannel) (limit : Nat) :
    Client ω × Option (Except Error Unit) :=
  match c.startConnect p with
  | (c', none) => ((c'.recordChannel p).1, some (c'.recordChannel p).2)
  | (c', some race) =>
    (c'.attempt? p race limit (c'.now + limit)).elim (c', none) fun settled => (settled.1, some settled.2)

variable {p : PendingChannel} {limit deadline : Nat} {next : Option Watch}
  {recorded : Except Error Unit}

theorem pollConnect_eq (c : Client ω) (p : PendingChannel) (race : RaceId) (limit deadline : Nat)
    (next : Option Watch) :
    c.pollConnect p race limit deadline next =
      (c.attempt? p race limit deadline).elim (c, .waiting (.connect p race limit deadline next))
        fun settled => settled.1.afterConnect p.channel next settled.2 := by
  unfold pollConnect attempt?
  cases c.judge race deadline connectVerdict <;> rfl

/-- The client when the call to connect has returned. -/
def connecting (c : Client ω) (p : PendingChannel) : Client ω :=
  let installed := (c.install p.channel.handle [connectEvent, connectErrorEvent]).1
  let called := Transports.connect p.channel.handle c.world
  deliverAll p.channel.handle called.2
    { installed.logged (.connect p.channel.handle) with world := called.1 }

theorem startConnect_eq (c : Client ω) (p : PendingChannel) :
    c.startConnect p =
      if Transports.stateOf p.channel.handle (c.connecting p).world = .connected then
        ((c.connecting p).release c.started, none)
      else (c.connecting p, some c.started) :=
  rfl

theorem dispatch_connect (c : Client ω) (a : ConnectAction) :
    c.dispatch (.connect a) =
      match (c.draw (c.profile.timeout a.timeout)).1.openChannel .channelConnect
        (c.profile.namespaceOf a.ns) with
      | (c', .error e) => (c', .done (.error e))
      | (c', .ok p) => c'.establish p (c.draw (c.profile.timeout a.timeout)).2 none :=
  rfl

/-- The channel is connected when the call returns, or the race is looked at for the first time. -/
theorem tryConnect_cases (c : Client ω) (p : PendingChannel) (limit : Nat) :
    (∃ c₁, c.startConnect p = (c₁, none) ∧
        c.tryConnect p limit = ((c₁.recordChannel p).1, some (c₁.recordChannel p).2)) ∨
      c.startConnect p = (c.connecting p, some c.started) ∧
        c.tryConnect p limit =
          ((c.connecting p).attempt? p c.started limit ((c.connecting p).now + limit)).elim
            (c.connecting p, none) fun settled => (settled.1, some settled.2) := by
  unfold tryConnect
  rw [startConnect_eq]
  by_cases connected : Transports.stateOf p.channel.handle (c.connecting p).world = .connected
  · rw [if_pos connected]
    exact .inl ⟨_, rfl, rfl⟩
  · rw [if_neg connected]
    exact .inr ⟨rfl, rfl⟩

theorem establish_eq (c : Client ω) (p : PendingChannel) (limit : Nat) (next : Option Watch) :
    c.establish p limit next =
      match c.tryConnect p limit with
      | (c', some recorded) => c'.afterConnect p.channel next recorded
      | (c', none) => (c', .waiting (.connect p c.started limit (c'.now + limit) next)) := by
  unfold establish
  rcases c.tryConnect_cases p limit with ⟨c₁, started, tried⟩ | ⟨started, tried⟩
  · rw [started, tried]
  · rw [started, tried]
    dsimp only
    rw [pollConnect_eq]
    cases (c.connecting p).attempt? p c.started limit ((c.connecting p).now + limit) <;> rfl

theorem concludes_recordChannel (c : Client ω) (p : PendingChannel) :
    (c.recordChannel p).1.Concludes p (c.recordChannel p).2 := by
  rcases c.recordChannel_cases p with ⟨current, recorded⟩ | ⟨_, e, ends, closed⟩
  · rw [recorded]
    obtain ⟨page, isPage, _⟩ := Option.map_eq_some_iff.mp current
    constructor
    · show _ ∈ recordingsOf _
      rw [recordingsOf_append]
      exact List.mem_append_right _ List.mem_cons_self
    · refine ⟨{ page with channels := page.channels.set p.channel.ns p.channel }, ?_, ?_⟩
      · simp only [Session.record, isPage, Option.map_some]
      · exact Entries.find?_set_self _ _ _
  · rw [closed]
    exact ends

theorem concludes_attempt (settled : c.attempt? p race limit deadline = some (c', recorded)) :
    c'.Concludes p recorded := by
  obtain ⟨result, _, finished⟩ := Option.map_eq_some_iff.mp settled
  have concluded : ((c.release race).finishConnect p limit result).1.Concludes p
      ((c.release race).finishConnect p limit result).2 := by
    match result with
    | .resolved (.ok ()) => exact concludes_recordChannel _ p
    | .resolved (.error m) => rfl
    | .elapsed => rfl
  rw [finished] at concluded
  exact concluded

theorem attempt_acts (settled : c.attempt? p race limit deadline = some (c', recorded)) :
    Acts c (.listeners (p.subscription race) :: .channel p :: k) c' k := by
  obtain ⟨result, _, finished⟩ := Option.map_eq_some_iff.mp settled
  have acts := finishConnect_acts (k := k) (c.release race) p limit result
  rw [finished] at acts
  exact .step (.release (p.subscription race)) acts

/-! ### The start of an attempt -/

theorem openChannel_cases (c : Client ω) (kind : ActionKind) (ns : String) :
    (∃ c' e, c.openChannel kind ns = (c', .error e) ∧ c'.channels = c.channels) ∨
      ∃ c' p, c.openChannel kind ns = (c', .ok p) ∧ p.channel.ns = ns ∧
        p.channel.handle = c.channels.length ∧ c'.started = c.started ∧
        c'.history = c.history ++ [.opened p.page p.channel] := by
  unfold openChannel
  split
  · exact .inl ⟨_, _, rfl, rfl⟩
  · dsimp only
    split
    · exact .inl ⟨_, _, rfl, rfl⟩
    · split
      · exact .inl ⟨_, _, rfl, rfl⟩
      · exact .inr ⟨_, _, rfl, rfl, rfl, rfl, rfl⟩

theorem concludes_tryConnect (settled : c.tryConnect p limit = (c', some recorded)) :
    c'.Concludes p recorded := by
  rcases c.tryConnect_cases p limit with ⟨c₁, _, tried⟩ | ⟨_, tried⟩
  · cases settled.symm.trans tried
    exact concludes_recordChannel c₁ p
  · rw [tried] at settled
    cases known : (c.connecting p).attempt? p c.started limit ((c.connecting p).now + limit) with
    | none =>
      rw [known] at settled
      cases settled
    | some attempt =>
      rw [known] at settled
      cases settled
      exact concludes_attempt known

theorem tryConnect_acts (c : Client ω) (p : PendingChannel) (limit : Nat) :
    match c.tryConnect p limit with
    | (c', some _) => Acts c (.channel p :: k) c' k
    | (c', none) =>
      Acts c (.channel p :: k) c' (.listeners (p.subscription c.started) :: .channel p :: k) := by
  have acts := startConnect_acts (k := .channel p :: k) c p List.mem_cons_self
  rcases c.tryConnect_cases p limit with ⟨c₁, started, tried⟩ | ⟨started, tried⟩
  · rw [started] at acts
    rw [tried]
    exact acts.trans (recordChannel_acts c₁ p)
  · rw [started] at acts
    rw [tried]
    cases known : (c.connecting p).attempt? p c.started limit ((c.connecting p).now + limit) with
    | none => exact acts
    | some attempt => exact acts.trans (attempt_acts known)

theorem connecting_of_going (going : c.tryConnect p limit = (c', none)) : c' = c.connecting p := by
  rcases c.tryConnect_cases p limit with ⟨_, _, tried⟩ | ⟨_, tried⟩
  · cases going.symm.trans tried
  · rw [tried] at going
    cases known : (c.connecting p).attempt? p c.started limit ((c.connecting p).now + limit) with
    | none =>
      rw [known] at going
      cases going
      rfl
    | some attempt =>
      rw [known] at going
      cases going

/-- The call to connect, when the race of the attempt is installed. -/
theorem calling_acts (c : Client ω) (p : PendingChannel) :
    Acts (c.install p.channel.handle [connectEvent, connectErrorEvent]).1 k (c.connecting p) k := by
  have called : Act (c.install p.channel.handle [connectEvent, connectErrorEvent]).1 k
      { (c.install p.channel.handle [connectEvent, connectErrorEvent]).1.logged
          (.connect p.channel.handle) with
        world := (Transports.connect p.channel.handle c.world).1 } k :=
    .quiet (called_still _ c.sources _ fun _ => rfl) (.inr (.connect p.channel.handle c.world))
  exact .step called (deliverAll_acts p.channel.handle _ _)

/-- An attempt that goes on has heard what its channel has dispatched since it was opened. -/
theorem overhears_connecting (forward : Transports.Forward ω) (h : Wired c (.channel p :: k))
    (history : c.history = base ++ more) (silent : dispatches more = []) :
    (c.connecting p).Overhears (p.subscription c.started) base c.now := by
  have installed : Wired (c.install p.channel.handle [connectEvent, connectErrorEvent]).1
      (.listeners (p.subscription c.started) :: .channel p :: k) :=
    h.install (h.pending p List.mem_cons_self) connectEvents_nodup
  have hears : (c.install p.channel.handle [connectEvent, connectErrorEvent]).1.Overhears
      (p.subscription c.started) base c.now :=
    overhears_install h history silent _ _
  exact hears.acts installed List.mem_cons_self forward (calling_acts c p)

end Client

theorem mem_heldNext {w : Watch} {next : Option Watch} (follows : w ∈ next)
    (channel : ChannelId) : .listeners (w.subscription channel) ∈ heldNext channel next := by
  rw [Option.mem_def.mp follows]
  exact List.mem_cons_self

/-! ### Attempts in flight -/

namespace Tab

variable [Transports ω] {t : Tab ω} {flight : Nat} {p : PendingChannel} {race : RaceId}
  {limit deadline opened : Nat} {next : Option Watch} {base : List ChannelEvent}

/-- An action whose attempt goes on, on a channel that has been heard since `base`. -/
structure Trying (t : Tab ω) (flight : Nat) (p : PendingChannel) (race : RaceId)
    (limit deadline : Nat) (next : Option Watch) (base : List ChannelEvent) (opened : Nat) :
    Prop where
  found : t.flights[flight]? = some (.action (.connect p race limit deadline next))
  hears : t.client.Overhears (p.subscription race) base opened
  watches : ∀ w ∈ next, t.client.Overhears (w.subscription p.channel.handle) base opened

namespace Trying

variable (trying : t.Trying flight p race limit deadline next base opened)

include trying

theorem mem_held {h : Held} (holds : h ∈ (Job.connect p race limit deadline next).held) :
    h ∈ t.held :=
  mem_held_of_heldBy (mem_heldBy.mpr ⟨_, trying.found, holds⟩)

theorem holds : .listeners (p.subscription race) ∈ t.held :=
  trying.mem_held List.mem_cons_self

theorem holds_watch {w : Watch} (follows : w ∈ next) :
    .listeners (w.subscription p.channel.handle) ∈ t.held :=
  trying.mem_held (List.mem_cons_of_mem _ (List.mem_cons_of_mem _ (mem_heldNext follows _)))

theorem step_other (reachable : Reachable t) (forward : Transports.Forward ω) {event : TabEvent ω}
    (ahead : t.client.now ≤ (t.step event).client.now) (other : event ≠ .poll flight) :
    (t.step event).Trying flight p race limit deadline next base opened := by
  have wired := reachable.wired
  obtain ⟨more, grows⟩ := t.grows forward wired event ahead
  obtain ⟨below, _⟩ := List.getElem?_eq_some_iff.mp trying.found
  constructor
  case found => exact (flights_step_other (subject_ne below other)).trans trying.found
  case hears => exact trying.hears.grows wired trying.holds grows
  case watches =>
    exact fun w follows => (trying.watches w follows).grows wired (trying.holds_watch follows) grows

theorem poll_going (going : t.client.attempt? p race limit deadline = none) :
    t.step (.poll flight) = t := by
  obtain ⟨below, same⟩ := List.getElem?_eq_some_iff.mp trying.found
  have polled := Client.pollConnect_eq t.client p race limit deadline next
  rw [going, Option.elim_none] at polled
  have kept : t.flights.set flight (.action (.connect p race limit deadline next)) = t.flights := by
    rw [← same, List.set_getElem_self]
  rw [step, poll_action trying.found, Client.poll, polled, Flight.ofProgress, kept]

theorem poll_over {c : Client ω} {recorded : Except Error Unit}
    (settled : t.client.attempt? p race limit deadline = some (c, recorded)) :
    (t.step (.poll flight)).client = (c.afterConnect p.channel next recorded).1 ∧
      (t.step (.poll flight)).flights[flight]? = some (.ofProgress
        (t.step (.poll flight)).client.now (c.afterConnect p.channel next recorded).2) := by
  obtain ⟨below, _⟩ := List.getElem?_eq_some_iff.mp trying.found
  have polled := Client.pollConnect_eq t.client p race limit deadline next
  rw [settled, Option.elim_some] at polled
  rw [step, poll_action trying.found, Client.poll, polled]
  exact ⟨rfl, List.getElem?_set_self below⟩

theorem wired_over (reachable : Reachable t) {c : Client ω} {recorded : Except Error Unit}
    (settled : t.client.attempt? p race limit deadline = some (c, recorded)) :
    ∃ others, Wired c (heldNext p.channel.handle next ++ others) := by
  obtain ⟨others, held⟩ := t.exists_others flight
  rw [heldBy_of_flight trying.found] at held
  exact ⟨others, (reachable.wired.perm held).acts (Client.attempt_acts settled)⟩

theorem watches_over (reachable : Reachable t) (forward : Transports.Forward ω) {c : Client ω}
    {recorded : Except Error Unit} {w : Watch} (follows : w ∈ next)
    (settled : t.client.attempt? p race limit deadline = some (c, recorded)) :
    c.Overhears (w.subscription p.channel.handle) base opened := by
  obtain ⟨others, held⟩ := t.exists_others flight
  rw [heldBy_of_flight trying.found] at held
  exact (trying.watches w follows).acts (reachable.wired.perm held)
    (held.mem_iff.mp (trying.holds_watch follows)) forward
    (Client.attempt_acts (k := heldNext p.channel.handle next ++ others) settled)

theorem not_recorded (reachable : Reachable t) :
    p.channel.handle ∉ t.client.recordings.map PagedChannel.handle := by
  refine reachable.charted.not_recorded (mem_pendingHandles.mpr ⟨p, trying.mem_held ?_, rfl⟩)
  exact List.mem_cons_of_mem _ List.mem_cons_self

end Trying

/-- An action that has opened the channel of its attempt; a watch that is to follow is installed. -/
structure Opens (t : Tab ω) (action : Action) (p : PendingChannel) (limit : Nat)
    (next : Option Watch) (c : Client ω) : Prop where
  dispatched : t.client.dispatch action = c.establish p limit next
  wired : Wired c (.channel p :: (heldNext p.channel.handle next ++ t.held))
  handle : p.channel.handle = t.client.channels.length
  history : c.history = t.client.history ++ [.opened p.page p.channel]
  watches : ∀ w ∈ next, c.Overhears (w.subscription p.channel.handle) t.client.history c.now

namespace Opens

variable {action : Action} {c c' : Client ω} (opens : t.Opens action p limit next c)

include opens

theorem launched_going (going : c.tryConnect p limit = (c', none)) :
    t.step (.dispatch action) =
      t.launch (c', .waiting (.connect p c.started limit (c'.now + limit) next)) := by
  rw [step, opens.dispatched, Client.establish_eq, going]

theorem trying (forward : Transports.Forward ω) (going : c.tryConnect p limit = (c', none)) :
    (t.step (.dispatch action)).Trying t.flights.length p c.started limit (c'.now + limit) next
      t.client.history c.now := by
  have acts := Client.tryConnect_acts (k := heldNext p.channel.handle next ++ t.held) c p limit
  rw [going] at acts
  rw [opens.launched_going going]
  constructor
  case found => exact List.getElem?_concat_length
  case hears =>
    rw [Client.connecting_of_going going]
    exact Client.overhears_connecting forward opens.wired opens.history rfl
  case watches =>
    intro w follows
    exact (opens.watches w follows).acts opens.wired
      (List.mem_cons_of_mem _ (List.mem_append_left _ (mem_heldNext follows _))) forward acts

theorem mem_openings (forward : Transports.Forward ω) :
    (p.page, p.channel) ∈ (t.step (.dispatch action)).client.openings := by
  have acts := Client.establish_acts (k := t.held) c p limit next
  obtain ⟨more, grown⟩ := acts.grows forward opens.wired
  show _ ∈ openingsOf (t.client.dispatch action).1.history
  rw [opens.dispatched, grown.history, opens.history, List.append_assoc, openingsOf_append]
  exact List.mem_append_right _ List.mem_cons_self

variable {recorded : Except Error Unit} (settled : c.tryConnect p limit = (c', some recorded))

include settled

theorem launched :
    (t.step (.dispatch action)).client = (c'.afterConnect p.channel next recorded).1 ∧
      (t.step (.dispatch action)).flights[t.flights.length]? = some (.ofProgress
        (t.step (.dispatch action)).client.now (c'.afterConnect p.channel next recorded).2) := by
  rw [step, opens.dispatched, Client.establish_eq, settled]
  exact ⟨rfl, List.getElem?_concat_length⟩

theorem wired_over : Wired c' (heldNext p.channel.handle next ++ t.held) := by
  have acts := Client.tryConnect_acts (k := heldNext p.channel.handle next ++ t.held) c p limit
  rw [settled] at acts
  exact opens.wired.acts acts

theorem watches_over (forward : Transports.Forward ω) {w : Watch} (follows : w ∈ next) :
    c'.Overhears (w.subscription p.channel.handle) t.client.history c.now := by
  have acts := Client.tryConnect_acts (k := heldNext p.channel.handle next ++ t.held) c p limit
  rw [settled] at acts
  exact (opens.watches w follows).acts opens.wired
    (List.mem_cons_of_mem _ (List.mem_append_left _ (mem_heldNext follows _))) forward acts

end Opens

theorem opens_connect (reachable : Reachable t) (a : ConnectAction) {c : Client ω}
    (opened : (t.client.draw (t.client.profile.timeout a.timeout)).1.openChannel .channelConnect
      (t.client.profile.namespaceOf a.ns) = (c, .ok p)) :
    t.Opens (.connect a) p (t.client.draw (t.client.profile.timeout a.timeout)).2 none c := by
  have dispatched : t.client.dispatch (.connect a) =
      c.establish p (t.client.draw (t.client.profile.timeout a.timeout)).2 none := by
    rw [Client.dispatch_connect, opened]
  have drawn : Wired (t.client.draw (t.client.profile.timeout a.timeout)).1 t.held :=
    reachable.wired.of_eq rfl rfl rfl reachable.wired.recorded
  have acts := Client.openChannel_acts (k := t.held)
    (t.client.draw (t.client.profile.timeout a.timeout)).1 .channelConnect
    (t.client.profile.namespaceOf a.ns)
  rcases (t.client.draw (t.client.profile.timeout a.timeout)).1.openChannel_cases .channelConnect
    (t.client.profile.namespaceOf a.ns) with
    ⟨_, _, failed, _⟩ | ⟨_, _, opened', _, own, _, history⟩
  · cases opened.symm.trans failed
  · cases opened.symm.trans opened'
    rw [opened] at acts
    exact ⟨dispatched, drawn.acts acts, own, history, nofun⟩

end Tab

end LiveSession
