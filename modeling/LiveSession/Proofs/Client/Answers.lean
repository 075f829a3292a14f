import LiveSession.Proofs.Client.Starting

/-!
# Answers to an attempt

A channel that is being connected answers with `connect` or `connect_error`, or not at all. The
first answer before the deadline tells how the attempt ends, else the deadline does, whatever else
happens meanwhile and however late anybody looks. `Client.Settles` is what an end does to the
session and its channels, and `Tab.Decides` says when an attempt ends.
-/

namespace LiveSession

/-- What a channel has answered. -/
def PendingChannel.answers (p : PendingChannel) (history : List ChannelEvent) : List Occurrence :=
  occurrences p.channel.handle [connectEvent, connectErrorEvent] history

def firstAnswer? (deadline : Nat) (answers : List Occurrence) : Option Occurrence :=
  answers.find? fun o => o.time < deadline

/-- When an attempt ends: with its first answer, or with its deadline. -/
def answerDue (deadline : Nat) (first : Option Occurrence) : Nat :=
  first.elim deadline Occurrence.time

/-- How an attempt ends that was to take at most `limit`. -/
def PendingChannel.verdict (p : PendingChannel) (limit : Nat) :
    Option Occurrence → Except Error Unit
  | some o =>
    if o.event = connectEvent then .ok ()
    else .error (.connectFailed p.channel.ns (Client.describeFailure o.args))
  | none => .error (.connectTimeout p.channel.ns limit)

/-! ### First answers -/

section

variable {deadline now : Nat} {answers more : List Occurrence}

theorem winner?_connectVerdict :
    Race.winner? deadline Client.connectVerdict answers = firstAnswer? deadline answers :=
  List.find?_congr fun _ _ => Bool.and_true _

theorem firstAnswer?_append (answers more : List Occurrence) :
    firstAnswer? deadline (answers ++ more) =
      (firstAnswer? deadline answers).or (firstAnswer? deadline more) :=
  List.find?_append

/-- What comes after the end of an attempt makes no difference to it. -/
theorem firstAnswer?_stable (ended : (firstAnswer? deadline answers).isSome ∨ deadline ≤ now)
    (later : ∀ o ∈ more, now ≤ o.time) :
    firstAnswer? deadline (answers ++ more) = firstAnswer? deadline answers := by
  rw [firstAnswer?_append]
  cases first : firstAnswer? deadline answers with
  | some o => rfl
  | none =>
    rw [first] at ended
    rw [Option.none_or]
    refine List.find?_eq_none.mpr fun o member => ?_
    have reached := ended.resolve_left nofun
    simpa using Nat.le_trans reached (later o member)

theorem le_answerDue_append (before : now ≤ answerDue deadline (firstAnswer? deadline answers))
    (later : ∀ o ∈ more, now ≤ o.time) :
    now ≤ answerDue deadline (firstAnswer? deadline (answers ++ more)) := by
  rw [firstAnswer?_append]
  cases first : firstAnswer? deadline answers with
  | some o =>
    rw [first] at before
    exact before
  | none =>
    rw [first] at before
    rw [Option.none_or]
    cases next : firstAnswer? deadline more with
    | some o => exact later o (List.mem_of_find?_eq_some next)
    | none => exact before

theorem isSome_or_iff (past : ∀ o ∈ answers, o.time ≤ now) :
    ((firstAnswer? deadline answers).isSome = true ∨ deadline ≤ now) ↔
      answerDue deadline (firstAnswer? deadline answers) ≤ now := by
  cases first : firstAnswer? deadline answers with
  | some o => exact ⟨fun _ => past o (List.mem_of_find?_eq_some first), fun _ => .inl rfl⟩
  | none => exact ⟨fun ended => ended.resolve_left nofun, .inr⟩

end

variable {ω : Type}

/-! ### The end of an attempt -/

namespace Client

/-- The channel of an attempt becomes the one of its namespace on the current page; the other
entries of the page stay, and nothing is closed. -/
structure Joins (c c' : Client ω) (p : PendingChannel) : Prop where
  session : ∃ (page : Page) (channels : Entries SocketChannel), c.session.page = some page ∧
    page.id = p.page ∧ c'.session = { c.session with page := some { page with channels } } ∧
    channels.find? p.channel.ns = some p.channel ∧
    ∀ ns, ns ≠ p.channel.ns → channels.find? ns = page.channels.find? ns
  recordings : c'.recordings = c.recordings ++ [(p.page, p.channel)]
  closings : ∀ handle, closings handle c'.log = closings handle c.log

/-- The channel of an attempt is closed, for the first time, and nothing else is; the page stays as
it is. -/
structure Drops (c c' : Client ω) (p : PendingChannel) : Prop where
  session : c'.session = c.session
  recordings : c'.recordings = c.recordings
  channels : c'.channels.length = c.channels.length
  before : closings p.channel.handle c.log = 0
  closed : closings p.channel.handle c'.log = 1
  others : ∀ handle, handle ≠ p.channel.handle → closings handle c'.log = closings handle c.log

/-- What becomes of an attempt with its verdict: a success counts if the page is still there. -/
inductive Settles (c : Client ω) (p : PendingChannel) :
    Except Error Unit → Client ω → Except Error Unit → Prop
  | joined {c' : Client ω} (current : c.pageId? = some p.page) (joins : c.Joins c' p) :
      Settles c p (.ok ()) c' (.ok ())
  | left {c' : Client ω} (gone : c.pageId? ≠ some p.page) (drops : c.Drops c' p) :
      Settles c p (.ok ()) c' (.error (.noPageLoaded ActionKind.channelConnect.name))
  | refused {c' : Client ω} {e : Error} (drops : c.Drops c' p) :
      Settles c p (.error e) c' (.error e)

variable {c c' : Client ω} {k : List Held} {p : PendingChannel} {race : RaceId}
  {verdict result : Except Error Unit}

theorem Drops.of_release (drops : (c.release race).Drops c' p) : c.Drops c' p := by
  obtain ⟨_, length, after⟩ := c.release_eq race
  rw [after] at drops
  exact ⟨drops.session, drops.recordings, drops.channels.trans length, drops.before, drops.closed,
    drops.others⟩

theorem Joins.of_release (joins : (c.release race).Joins c' p) : c.Joins c' p := by
  obtain ⟨_, _, after⟩ := c.release_eq race
  rw [after] at joins
  exact ⟨joins.session, joins.recordings, joins.closings⟩

theorem Settles.of_release (settles : (c.release race).Settles p verdict c' result) :
    c.Settles p verdict c' result := by
  cases settles with
  | joined current joins => exact .joined (c.pageId_release race ▸ current) joins.of_release
  | left gone drops => exact .left (c.pageId_release race ▸ gone) drops.of_release
  | refused drops => exact .refused drops.of_release

variable [Transports ω]

theorem drops_disconnect (unclosed : closings p.channel.handle c.log = 0) :
    c.Drops (c.disconnect p.channel.handle) p := by
  have closes := closes_disconnect c p.channel.handle
  have channels := congrArg List.length closes.channels
  refine ⟨closes.session, closes.recordings_eq, channels, unclosed, ?_, ?_⟩
  · rw [closes.closings_eq, unclosed, List.count_singleton_self]
  · intro handle other
    rw [closes.closings_eq, List.count_eq_zero_of_not_mem (by simpa using other), Nat.add_zero]

theorem settles_recordChannel (unclosed : closings p.channel.handle c.log = 0) :
    c.Settles p (.ok ()) (c.recordChannel p).1 (c.recordChannel p).2 := by
  have same : (c.session.page.any fun page => decide (page.id = p.page)) = true ↔
      c.pageId? = some p.page := by
    unfold pageId?
    cases c.session.page <;> simp
  unfold recordChannel
  by_cases current : c.pageId? = some p.page
  · rw [if_pos (same.mpr current)]
    obtain ⟨page, isPage, id⟩ := Option.map_eq_some_iff.mp current
    refine .joined current
      ⟨⟨page, page.channels.set p.channel.ns p.channel, isPage, id, ?_, ?_, ?_⟩,
        recordingsOf_append _ _, fun _ => rfl⟩
    · simp only [Session.record, isPage, Option.map_some]
    · exact Entries.find?_set_self _ _ _
    · exact fun ns other => Entries.find?_set_other _ _ other
  · rw [if_neg (mt same.mp current)]
    exact .left current (drops_disconnect unclosed)

/-- The first answer before a deadline that a channel has given since the history was `base`. -/
def answered? (c : Client ω) (p : PendingChannel) (base : List ChannelEvent) (deadline : Nat) :
    Option Occurrence :=
  firstAnswer? deadline (p.answers (c.history.drop base.length))

def answerResult (first : Option Occurrence) : RaceResult (Except String Unit) :=
  first.elim .elapsed fun o =>
    .resolved (if o.event = connectEvent then .ok () else .error (describeFailure o.args))

theorem settles_finishConnect (unclosed : closings p.channel.handle c.log = 0) (limit : Nat)
    (first : Option Occurrence) :
    c.Settles p (p.verdict limit first) (c.finishConnect p limit (answerResult first)).1
      (c.finishConnect p limit (answerResult first)).2 := by
  cases first with
  | none => exact .refused (drops_disconnect unclosed)
  | some o =>
    simp only [answerResult, Option.elim_some, PendingChannel.verdict]
    split
    · exact settles_recordChannel unclosed
    · exact .refused (drops_disconnect unclosed)

/-! ### Looking for an answer -/

section Look

variable {base : List ChannelEvent} {opened deadline limit : Nat} {next : Option Watch}
  (hears : c.Overhears (p.subscription race) base opened) (h : Wired c k)
  (holds : .listeners (p.subscription race) ∈ k)

include hears h holds

theorem judge_answers (deadline : Nat) :
    c.judge race deadline connectVerdict =
      if answerDue deadline (c.answered? p base deadline) ≤ c.now then
        some (answerResult (c.answered? p base deadline))
      else none := by
  have heard := hears.timed.heard p.channel.handle [connectEvent, connectErrorEvent]
  have ordered : Race.Ordered (p.answers (c.history.drop base.length)) := heard.1
  have past : ∀ o ∈ p.answers (c.history.drop base.length), o.time ≤ c.now :=
    fun o member => (heard.2 o member).2
  have polled : c.judge race deadline connectVerdict =
      Race.poll deadline connectVerdict c.now (p.answers (c.history.drop base.length)) :=
    hears.judge h holds deadline connectVerdict
  rw [polled, Race.poll_eq ordered past, winner?_connectVerdict]
  simp only [answered?, ← isSome_or_iff past]
  cases firstAnswer? deadline (p.answers (c.history.drop base.length)) <;>
    simp [answerResult, connectVerdict]

theorem isReady_connect : c.isReady (.connect p race limit deadline next) = true ↔
    answerDue deadline (c.answered? p base deadline) ≤ c.now := by
  unfold isReady
  dsimp only
  rw [judge_answers hears h holds deadline]
  split
  · rename_i due
    exact ⟨fun _ => due, fun _ => rfl⟩
  · rename_i early
    exact ⟨nofun, fun due => absurd due early⟩

theorem pollConnect_early (early : c.now < answerDue deadline (c.answered? p base deadline)) :
    c.pollConnect p race limit deadline next =
      (c, .waiting (.connect p race limit deadline next)) := by
  rw [pollConnect_eq, attempt?, judge_answers hears h holds deadline,
    if_neg (Nat.not_le.mpr early)]
  rfl

variable (limit next) in
theorem pollConnect_due (due : answerDue deadline (c.answered? p base deadline) ≤ c.now)
    (unclosed : closings p.channel.handle c.log = 0) :
    ∃ c' result, c.Settles p (p.verdict limit (c.answered? p base deadline)) c' result ∧
      c.pollConnect p race limit deadline next = c'.afterConnect p.channel next result := by
  have released : closings p.channel.handle (c.release race).log = 0 := by
    rw [(c.background_release race).log]
    exact unclosed
  refine ⟨_, _, (settles_finishConnect released limit _).of_release, ?_⟩
  rw [pollConnect_eq, attempt?, judge_answers hears h holds deadline, if_pos due]
  rfl

end Look

/-! ### The call to connect -/

theorem connecting_acts (c : Client ω) (holds : .channel p ∈ k) :
    Acts c k (c.connecting p) (.listeners (p.subscription c.started) :: k) :=
  .step (.install (.held holds) connectEvents_nodup) (calling_acts c p)

variable {limit : Nat} {next : Option Watch}

theorem establish_of_connected
    (connected : Transports.stateOf p.channel.handle (c.connecting p).world = .connected) :
    c.establish p limit next =
      (((c.connecting p).release c.started).recordChannel p).1.afterConnect p.channel next
        (((c.connecting p).release c.started).recordChannel p).2 := by
  unfold establish
  rw [startConnect_eq, if_pos connected]

theorem establish_of_unconnected
    (unconnected : Transports.stateOf p.channel.handle (c.connecting p).world ≠ .connected) :
    c.establish p limit next =
      (c.connecting p).pollConnect p c.started limit ((c.connecting p).now + limit) next := by
  unfold establish
  rw [startConnect_eq, if_neg unconnected]

end Client

/-! ### Attempts in flight -/

namespace Tab

variable [Transports ω] {t : Tab ω} {event : TabEvent ω} {events : List (TabEvent ω)} {flight : Nat}
  {c c' : Client ω} {p : PendingChannel} {race : RaceId} {limit deadline opened : Nat}
  {next : Option Watch} {base : List ChannelEvent} {verdict : Except Error Unit} {job : Job}

/-- An attempt has ended on the client `c`, and its flight has gone on from there. Unless it is
recorded, its channel is given up. -/
def Resolved (t : Tab ω) (flight : Nat) (c : Client ω) (p : PendingChannel) (next : Option Watch)
    (verdict : Except Error Unit) : Prop :=
  ∃ c' result, c.Settles p verdict c' result ∧
    t.GoesOn flight (c'.afterConnect p.channel next result) ∧
    (result ≠ .ok () → t.GivenUp p.channel.handle)

theorem resolved_of_settles (reachable : Reachable t) {s : Subscription} {others : List Held}
    {result : Except Error Unit}
    (charted : Charted c (.listeners s :: .channel p :: (heldNext p.channel.handle next ++ others)))
    (settles : c.Settles p verdict c' result)
    (goes : t.GoesOn flight (c'.afterConnect p.channel next result))
    (held : t.held.Perm (t.heldBy flight ++ others)) : t.Resolved flight c p next verdict := by
  have own : p.channel.handle ∈ pendingHandles
      (.listeners s :: .channel p :: (heldNext p.channel.handle next ++ others)) :=
    List.mem_cons_self
  have lost (drops : c.Drops c' p) :
      Lost c' (heldNext p.channel.handle next ++ others) p.channel.handle := by
    refine ⟨?_, ?_, ?_⟩
    · rw [drops.channels]
      exact charted.lt_of_opened (charted.pending p (List.mem_cons_of_mem _ List.mem_cons_self))
    · have distinct := (List.nodup_append.mp charted.distinct).1
      exact (List.nodup_cons.mp distinct).1
    · rw [drops.recordings]
      exact charted.not_recorded own
  have given (drops : c.Drops c' p) : t.GivenUp p.channel.handle := by
    have rest := Client.afterConnect_acts (k := others) c' p.channel next result
    exact givenUp_of_lost reachable
      ((((lost drops).acts rest).acts (goes.acts.frame others)).perm held.symm)
  refine ⟨c', result, settles, goes, fun failed => ?_⟩
  cases settles with
  | joined => exact absurd rfl failed
  | left gone drops => exact given drops
  | refused drops => exact given drops

/-- A flight whose attempt goes on, on a channel that has been heard since `base`. -/
structure Attempting (t : Tab ω) (flight : Nat) (p : PendingChannel) (race : RaceId)
    (limit deadline : Nat) (next : Option Watch) (base : List ChannelEvent) (opened : Nat) :
    Prop where
  waits : t.job? flight = some (.connect p race limit deadline next)
  hears : t.client.Overhears (p.subscription race) base opened

omit [Transports ω] in
theorem heldBy_of_job? (waits : t.job? flight = some job) : t.heldBy flight = job.held := by
  obtain ⟨f, found, waits⟩ := found_of_job? waits
  rw [heldBy_of_flight found, Flight.held_of_job waits]

theorem step_poll_waiting (waits : t.job? flight = some job)
    (same : t.client.poll job = (t.client, .waiting job)) : t.step (.poll flight) = t := by
  obtain ⟨f, found, waits⟩ := found_of_job? waits
  obtain ⟨below, own⟩ := List.getElem?_eq_some_iff.mp found
  have kept : t.flights.set flight f = t.flights := by rw [← own, List.set_getElem_self]
  cases f with
  | action job' =>
    cases waits
    rw [step, poll_action found, same, Flight.ofProgress, kept]
  | script r =>
    have phase := phase_of_job? waits
    have went : t.client.pollScript r = (t.client, .waiting r) := by
      unfold Client.pollScript
      rw [phase]
      dsimp only
      rw [same]
      cases r
      cases phase
      rfl
    rw [step, poll_script found, went, Flight.ofScript, kept]
  | _ => cases waits

namespace Attempting

variable (attempting : t.Attempting flight p race limit deadline next base opened)

include attempting

theorem holds : .listeners (p.subscription race) ∈ t.held := by
  have own : .listeners (p.subscription race) ∈ t.heldBy flight := by
    rw [heldBy_of_job? attempting.waits]
    exact List.mem_cons_self
  exact mem_held_of_heldBy own

theorem step_other (reachable : Reachable t) (forward : Transports.Forward ω)
    (ahead : t.client.now ≤ (t.step event).client.now) (other : event ≠ .poll flight) :
    (t.step event).Attempting flight p race limit deadline next base opened := by
  obtain ⟨more, grows⟩ := t.grows forward reachable.wired event ahead
  obtain ⟨f, found, _⟩ := found_of_job? attempting.waits
  obtain ⟨below, _⟩ := List.getElem?_eq_some_iff.mp found
  refine ⟨?_, attempting.hears.grows reachable.wired attempting.holds grows⟩
  rw [job?, flights_step_other (subject_ne below other)]
  exact attempting.waits

theorem poll_early (reachable : Reachable t)
    (early : t.client.now < answerDue deadline (t.client.answered? p base deadline)) :
    t.step (.poll flight) = t :=
  step_poll_waiting attempting.waits
    (Client.pollConnect_early attempting.hears reachable.wired attempting.holds early)

theorem poll_due (reachable : Reachable t)
    (due : answerDue deadline (t.client.answered? p base deadline) ≤ t.client.now) :
    (t.step (.poll flight)).Resolved flight t.client p next
      (p.verdict limit (t.client.answered? p base deadline)) := by
  obtain ⟨others, held, after⟩ := t.held_poll flight
  rw [heldBy_of_job? attempting.waits] at held
  have charted := reachable.charted.perm held
  have unclosed : closings p.channel.handle t.client.log = 0 := charted.held _ List.mem_cons_self
  obtain ⟨c', result, settles, polled⟩ :=
    Client.pollConnect_due limit next attempting.hears reachable.wired attempting.holds due unclosed
  have goes := goesOn_poll attempting.waits
  rw [Client.poll, polled] at goes
  exact resolved_of_settles (reachable.step (.poll flight)) charted settles goes after

end Attempting

/-! ### Time -/

/-- An event does not hold up what a flight waits for: the clock moves only as time passes, not
while the flight can go on, and not beyond its deadline. -/
def Attends (flight : Nat) (t : Tab ω) (event : TabEvent ω) : Prop :=
  ∀ job, t.job? flight = some job →
    (t.step event).client.now = t.client.now ∨
      (∃ world today, event = .pass world today) ∧ t.client.isReady job = false ∧
        ∀ deadline ∈ job.deadline?, (t.step event).client.now ≤ deadline

/-- Nothing holds up a flight. -/
def Attended (flight : Nat) : Tab ω → List (TabEvent ω) → Prop
  | _, [] => True
  | t, event :: events => Attends flight t event ∧ Attended flight (t.step event) events

/-- An attempt that nothing holds up is not overdue. -/
theorem Attempting.onTime_step
    (attempting : t.Attempting flight p race limit deadline next base opened)
    (reachable : Reachable t) (forward : Transports.Forward ω)
    (ahead : t.client.now ≤ (t.step event).client.now)
    (onTime : t.client.now ≤ answerDue deadline (t.client.answered? p base deadline))
    (attends : Attends flight t event) :
    (t.step event).client.now ≤
      answerDue deadline ((t.step event).client.answered? p base deadline) := by
  obtain ⟨added, history, -, -⟩ := attempting.hears
  rcases attends _ attempting.waits with still | ⟨⟨world, today, rfl⟩, unready, within⟩
  · obtain ⟨more, grows⟩ := t.grows forward reachable.wired event ahead
    rw [still]
    unfold Client.answered? at onTime ⊢
    rw [grows.history, history, List.append_assoc, List.drop_left]
    rw [history, List.drop_left] at onTime
    unfold PendingChannel.answers at onTime ⊢
    rw [occurrences_append]
    exact le_answerDue_append onTime fun o member => ((grows.timed.heard _ _).2 o member).1
  -- Only here does the clock move, and then nothing is dispatched.
  · have early : ¬ answerDue deadline (t.client.answered? p base deadline) ≤ t.client.now := by
      rw [← Client.isReady_connect attempting.hears reachable.wired attempting.holds, unready]
      exact Bool.false_ne_true
    show _ ≤ answerDue deadline (t.client.answered? p base deadline)
    cases first : t.client.answered? p base deadline with
    | some o =>
      rw [first] at early
      have past := ((attempting.hears.timed.heard _ _).2 o (List.mem_of_find?_eq_some first)).2
      exact absurd past early
    | none => exact within _ rfl

/-! ### Runs -/

theorem Forward.run {early late : List (TabEvent ω)} (ahead : Forward t (early ++ late)) :
    Forward (t.run early) late := by
  induction early generalizing t with
  | nil => exact ahead
  | cons event early ih => exact ih ahead.2

namespace Attempting

variable (attempting : t.Attempting flight p race limit deadline next base opened)
  (reachable : Reachable t) (forward : Transports.Forward ω)

include attempting reachable forward

/-- An attempt goes on until somebody looks when it is due. -/
theorem step (ahead : t.client.now ≤ (t.step event).client.now)
    (unseen : event = .poll flight →
      t.client.now < answerDue deadline (t.client.answered? p base deadline)) :
    (t.step event).Attempting flight p race limit deadline next base opened := by
  by_cases looked : event = .poll flight
  · rw [looked, attempting.poll_early reachable (unseen looked)]
    exact attempting
  · exact attempting.step_other reachable forward ahead looked

theorem run (ahead : Forward t events) :
    ∃ early late, events = early ++ late ∧
      (t.run early).Attempting flight p race limit deadline next base opened ∧
      (t.client.now ≤ answerDue deadline (t.client.answered? p base deadline) →
        Attended flight t early → (t.run early).client.now ≤
          answerDue deadline ((t.run early).client.answered? p base deadline)) ∧
      (late = [] ∨ ∃ rest, late = .poll flight :: rest ∧
        answerDue deadline ((t.run early).client.answered? p base deadline) ≤
          (t.run early).client.now) := by
  induction events generalizing t with
  | nil => exact ⟨[], [], rfl, attempting, fun onTime _ => onTime, .inl rfl⟩
  | cons event events ih =>
    by_cases seen : event = .poll flight ∧
        answerDue deadline (t.client.answered? p base deadline) ≤ t.client.now
    · obtain ⟨rfl, due⟩ := seen
      exact ⟨[], _, rfl, attempting, fun onTime _ => onTime, .inr ⟨events, rfl, due⟩⟩
    · have stays := attempting.step reachable forward ahead.1 fun looked =>
        Nat.lt_of_not_le fun due => seen ⟨looked, due⟩
      obtain ⟨early, late, rfl, waits, onTime, cut⟩ := ih stays (reachable.step event) ahead.2
      refine ⟨event :: early, late, rfl, waits, fun before attended => ?_, cut⟩
      exact onTime (attempting.onTime_step reachable forward ahead.1 before attended.1) attended.2

theorem stable (due : answerDue deadline (t.client.answered? p base deadline) ≤ t.client.now)
    (ahead : Forward t events) :
    (t.run events).client.answered? p base deadline = t.client.answered? p base deadline := by
  obtain ⟨added, history, -, -⟩ := attempting.hears
  obtain ⟨more, later, timed⟩ := reachable.timed_run forward ahead
  have past := (attempting.hears.timed.heard p.channel.handle [connectEvent, connectErrorEvent]).2
  have ended := (isSome_or_iff fun o member => (past o member).2).mpr due
  unfold Client.answered? PendingChannel.answers
  rw [history, List.drop_left] at ended ⊢
  rw [later, history, List.append_assoc, List.drop_left, occurrences_append]
  exact firstAnswer?_stable ended fun o member => ((timed.heard _ _).2 o member).1

end Attempting

/-- How an attempt of a flight stands after `events`, which ends with a verdict when it is looked at
at `due` or later: it has ended so, when it was looked at for the first time from then on, and at
that very moment if nothing held it up, or it goes on. -/
inductive Decides (t : Tab ω) (events : List (TabEvent ω)) (flight : Nat) (p : PendingChannel)
    (next : Option Watch) (job : Job) (verdict : Except Error Unit) (due : Nat) : Prop
  | ended {early late : List (TabEvent ω)} (split : events = early ++ .poll flight :: late)
      (waited : (t.run early).job? flight = some job)
      (reached : due ≤ (t.run early).client.now)
      (onTime : Attended flight t early → (t.run early).client.now = due)
      (resolved : ((t.run early).step (.poll flight)).Resolved flight (t.run early).client p next
        verdict)
  | waiting (waits : (t.run events).job? flight = some job)
      (onTime : Attended flight t events → (t.run events).client.now ≤ due)
      (ready : (t.run events).client.isReady job = true ↔ due ≤ (t.run events).client.now)
      (early : (t.run events).client.now < due → (t.run events).step (.poll flight) = t.run events)
      (resolves : due ≤ (t.run events).client.now →
        ((t.run events).step (.poll flight)).Resolved flight (t.run events).client p next verdict)

theorem Attempting.decides (attempting : t.Attempting flight p race limit deadline next base opened)
    (reachable : Reachable t) (forward : Transports.Forward ω)
    (onTime : t.client.now ≤ answerDue deadline (t.client.answered? p base deadline))
    (ahead : Forward t events) :
    let answered := (t.run events).client.answered? p base deadline
    t.Decides events flight p next (.connect p race limit deadline next) (p.verdict limit answered)
      (answerDue deadline answered) := by
  obtain ⟨early, late, rfl, waits, inTime, rfl | ⟨rest, rfl, due⟩⟩ :=
    attempting.run reachable forward ahead
  · rw [List.append_nil]
    have reached := reachable.run early
    exact .waiting waits.waits (inTime onTime)
      (Client.isReady_connect waits.hears reached.wired waits.holds) (waits.poll_early reached)
      (waits.poll_due reached)
  · have reached := reachable.run early
    have same := waits.stable reached forward due ahead.run
    have whole : (t.run early).run (.poll flight :: rest) = t.run (early ++ .poll flight :: rest) :=
      List.foldl_append.symm
    rw [whole] at same
    rw [same]
    refine .ended rfl waits.waits due (fun attended => ?_) (waits.poll_due reached due)
    exact Nat.le_antisymm (inTime onTime attended) due

/-- An action that connects a channel fails before it opens one, or it starts an attempt. The
attempt succeeds at once if its channel is connected when the call to connect returns: its page is
still the current one then. Else its first answer before the deadline decides it, those that the
call itself brings included, else the deadline, whatever happens on the tab meanwhile; if nothing
holds it up, it ends at that very moment. -/
theorem Reachable.connect_verdict (reachable : Reachable t) (forward : Transports.Forward ω)
    {action : Action} (dispatches : t.Dispatches event flight c action)
    (connects : action.connects = true) :
    (∃ c' e, c.dispatch action = (c', .done (.error e)) ∧ c'.channels = c.channels) ∨
    ∃ p limit next c', c.Begins action p limit next c' ∧
      let returned := c'.connecting p
      let deadline := returned.now + limit
      let answered := returned.answered? p c.history deadline
      let started := t.step event
      returned.pageId? = some p.page ∧
      (Transports.stateOf p.channel.handle returned.world = .connected →
        started.Resolved flight returned p next (.ok ())) ∧
      (Transports.stateOf p.channel.handle returned.world ≠ .connected →
        answerDue deadline answered ≤ returned.now →
        started.Resolved flight returned p next (p.verdict limit answered)) ∧
      (Transports.stateOf p.channel.handle returned.world ≠ .connected →
        returned.now < answerDue deadline answered →
        ∀ events, Forward started events →
        let answered := (started.run events).client.answered? p c.history deadline
        started.Decides events flight p next (.connect p c'.started limit deadline next)
          (p.verdict limit answered) (answerDue deadline answered)) := by
  refine (Client.begins_cases connects c).imp_right ?_
  rintro ⟨p, limit, next, c', begins⟩
  refine ⟨p, limit, next, c', begins, ?_⟩
  intro returned deadline answered started
  obtain ⟨others, held, after⟩ := held_subject dispatches.subject_eq
  have acts := (dispatches.acts.frame others).trans begins.acts
  have wired := (reachable.wired.perm held).acts acts
  have called := acts.trans (Client.connecting_acts c' List.mem_cons_self)
  have charted : Charted returned _ := (reachable.charted.perm held).acts called
  have unclosed : closings p.channel.handle returned.log = 0 :=
    charted.held p.channel.handle List.mem_cons_self
  have hears := Client.overhears_connecting forward wired begins.history rfl
  have goes := dispatches.goesOn
  rw [begins.dispatch_eq] at goes
  have listening := wired.acts (Client.connecting_acts c' List.mem_cons_self)
  refine ⟨(c'.unmoved_connecting p).pageId.trans begins.current, fun connected => ?_,
    fun unconnected due => ?_, fun unconnected early events ahead => ?_⟩
  · have released : closings p.channel.handle (returned.release c'.started).log = 0 := by
      rw [(returned.background_release c'.started).log]
      exact unclosed
    rw [Client.establish_of_connected connected] at goes
    exact resolved_of_settles (reachable.step event) charted
      (Client.settles_recordChannel released).of_release goes after
  · obtain ⟨c₁, result, settles, polled⟩ :=
      Client.pollConnect_due limit next hears listening List.mem_cons_self due unclosed
    rw [Client.establish_of_unconnected unconnected, polled] at goes
    exact resolved_of_settles (reachable.step event) charted settles goes after
  · rw [Client.establish_of_unconnected unconnected,
      Client.pollConnect_early hears listening List.mem_cons_self early] at goes
    obtain ⟨client, waits⟩ := goes.waiting
    have attempting : started.Attempting flight p c'.started limit deadline next c.history c'.now :=
      ⟨waits, client ▸ hears⟩
    refine attempting.decides (reachable.step event) forward ?_ ahead
    rw [client]
    exact Nat.le_of_lt early

theorem eq_ok_of_toOption {r : Except Error PendingChannel} {page : PageId}
    {channel : SocketChannel}
    (opened : r.toOption.map (fun p => (p.page, p.channel)) = some (page, channel)) :
    r = .ok ⟨page, channel⟩ := by
  cases r with
  | ok p =>
    obtain ⟨samePage, sameChannel⟩ := Prod.mk.inj (Option.some.inj opened)
    rw [← samePage, ← sameChannel]
  | error e => cases opened

/-- A tab whose servers leave the attempts to connect without an answer. -/
def unanswered : Tab Scenario.Servers :=
  connected.step (.pass { connected.client.world with behavior := { kind := .never } } 0)

theorem unanswered_reachable : Reachable unanswered :=
  connected_reachable.step _

/-- A channel that is refused, and connects later, before anybody looks. -/
theorem connect_verdict_refused :
    let action : Action := .connect { ns := some "/chat", timeout := some (.fixed 10) }
    let later (now : Nat) : Scenario.Servers := { unanswered.client.world with now }
    let t' := (unanswered.step (.dispatch action)).run
      [.pass (later 4) 0, .fire 1 ⟨connectErrorEvent, [.str "no"]⟩, .pass (later 5) 0,
        .fire 1 ⟨connectEvent, []⟩]
    ∃ p, p.channel.ns = "/chat" ∧ (t'.step (.poll 2)).Resolved 2 t'.client p none
      (.error (.connectFailed "/chat" "no")) := by
  intro action later t'
  let started := unanswered.step (.dispatch action)
  let drawn := unanswered.client.draw (unanswered.client.profile.timeout (some (.fixed 10)))
  let opening := drawn.1.openChannel .channelConnect
    (unanswered.client.profile.namespaceOf (some "/chat"))
  let channel : SocketChannel :=
    { ns := "/chat", config := { forceNew := false, cookie := none }, handle := 1 }
  obtain ⟨_, _, failed, -⟩ | ⟨p, limit, next, c, begins, -, -, -, waits⟩ :=
    unanswered_reachable.connect_verdict servers_forward (.action action) rfl
  · have waiting : (match (unanswered.client.dispatch action).2 with
        | .waiting _ => true
        | .done _ => false) = true := by decide +kernel
    rw [failed] at waiting
    cases waiting
  have opened : opening = (opening.1, .ok ⟨0, channel⟩) :=
    Prod.ext rfl (eq_ok_of_toOption (by decide +kernel))
  have plain : unanswered.client.Begins
      (.connect { ns := some "/chat", timeout := some (.fixed 10) }) p limit next c := begins
  obtain ⟨rfl, rfl, rfl, rfl⟩ :
      p = ⟨0, channel⟩ ∧ limit = drawn.2 ∧ next = none ∧ c = opening.1 := by
    cases plain with
    | watched compound => cases compound
    | plain opened' =>
      cases opened.symm.trans opened'
      exact ⟨rfl, rfl, rfl, rfl⟩
  have ahead : Forward started
      [.pass (later 4) 0, .fire 1 ⟨connectErrorEvent, [.str "no"]⟩, .pass (later 5) 0,
        .fire 1 ⟨connectEvent, []⟩] := by
    refine ⟨?_, ?_, ?_, ?_, trivial⟩ <;> decide +kernel
  have number : unanswered.flights.length = 2 := by decide +kernel
  have decides := waits (by decide +kernel) (by decide +kernel) _ ahead
  dsimp only at decides
  rw [number] at decides
  have heard : (t'.client.answered? ⟨0, channel⟩ unanswered.client.history
      ((opening.1.connecting ⟨0, channel⟩).now + drawn.2)).map
        (fun o => (o.event, Client.describeFailure o.args, o.time)) =
      some (connectErrorEvent, "no", 4) := by decide +kernel
  obtain ⟨o, first, named⟩ := Option.map_eq_some_iff.mp heard
  obtain ⟨event, described⟩ := Prod.mk.inj named
  obtain ⟨text, time⟩ := Prod.mk.inj described
  have refused : PendingChannel.verdict ⟨0, channel⟩ drawn.2 (some o) =
      .error (.connectFailed "/chat" "no") := by
    have other : o.event ≠ connectEvent := by
      rw [event]
      decide
    rw [PendingChannel.verdict, if_neg other, text]
  refine ⟨⟨0, channel⟩, rfl, ?_⟩
  rw [first] at decides
  cases decides with
  | @ended early late split =>
    have polled : TabEvent.poll 2 ∈ early ++ .poll 2 :: late :=
      List.mem_append_right _ List.mem_cons_self
    rw [← split] at polled
    simp at polled
  | waiting _ _ _ _ resolves =>
    rw [← refused]
    refine resolves ?_
    rw [answerDue, Option.elim_some, time]
    decide +kernel

end Tab

end LiveSession
