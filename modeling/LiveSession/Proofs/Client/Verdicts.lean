import LiveSession.Proofs.Client.Watching

/-!
# Verdicts of watches

Whatever happens on a tab, a watch that was started on it ends with what its channel dispatched in
its time. `Watched` is what every step keeps: a watch in flight has heard just that, and one that
has ended ended so.
-/

namespace LiveSession.Tab

variable {ω : Type} [Transports ω] {t : Tab ω} {event : TabEvent ω}

def Forward : Tab ω → List (TabEvent ω) → Prop
  | _, [] => True
  | t, event :: events => t.client.now ≤ (t.step event).client.now ∧ Forward (t.step event) events

/-- An event does not hold up an action in flight: the clock moves only as time passes, not while
the action can go on, and not beyond its deadline. -/
def KeepsTime (flight : Nat) (t : Tab ω) (event : TabEvent ω) : Prop :=
  ∀ job, t.flights[flight]? = some (.action job) →
    (t.step event).client.now = t.client.now ∨
      (∃ world today, event = .pass world today) ∧ t.client.isReady job = false ∧
        ∀ deadline ∈ job.deadline?, (t.step event).client.now ≤ deadline

/-- Nothing holds up an action in flight. -/
def Prompt (flight : Nat) : Tab ω → List (TabEvent ω) → Prop
  | _, [] => True
  | t, event :: events => KeepsTime flight t event ∧ Prompt flight (t.step event) events

/-- A watch that started at `start` under the number `flight`, when its channel has dispatched
`heard` since. -/
inductive Watched (w : Watch) (channel : ChannelId) (start flight : Nat) (prompt : Prop)
    (heard : List Occurrence) (t : Tab ω) : Prop
  | waiting (found : t.flights[flight]? = some (.action (.watch channel w (start + w.limit))))
      (queue : ∀ r ∈ t.client.races, r.id = w.race → r.queue = heard)
      (onTime : prompt → t.client.now ≤ w.due start (w.first? start heard))
  | ended (time : Nat)
      (found : t.flights[flight]? =
        some (.actionEnded (w.verdict (w.first? start heard)) time))
      (reached : w.due start (w.first? start heard) ≤ time) (past : time ≤ t.client.now)
      (onTime : prompt → time = w.due start (w.first? start heard))

/-- The same, with all that has happened since. -/
def Follows (w : Watch) (channel : ChannelId) (start flight : Nat) (base : List ChannelEvent)
    (prompt : Prop) (t : Tab ω) : Prop :=
  ∃ added, t.client.history = base ++ added ∧ Timed start t.client.now added ∧
    Watched w channel start flight prompt (occurrences channel [w.event] added) t

variable {w : Watch} {channel : ChannelId} {start flight : Nat} {prompt prompt' : Prop}
  {base added more : List ChannelEvent}

theorem Watched.imp {heard : List Occurrence} (stronger : prompt' → prompt)
    (watched : Watched w channel start flight prompt heard t) :
    Watched w channel start flight prompt' heard t := by
  cases watched with
  | waiting found queue onTime => exact .waiting found queue fun also => onTime (stronger also)
  | ended time found reached past onTime =>
    exact .ended time found reached past fun also => onTime (stronger also)

theorem Follows.imp (stronger : prompt' → prompt)
    (follows : Follows w channel start flight base prompt t) :
    Follows w channel start flight base prompt' t := by
  obtain ⟨added, history, timed, watched⟩ := follows
  exact ⟨added, history, timed, watched.imp stronger⟩

theorem Follows.heard (follows : Follows w channel start flight base prompt t) :
    Timed start t.client.now (t.client.history.drop base.length) ∧
      Watched w channel start flight prompt
        (occurrences channel [w.event] (t.client.history.drop base.length)) t := by
  obtain ⟨added, history, timed, watched⟩ := follows
  rw [history, List.drop_left]
  exact ⟨timed, watched⟩

/-! ### Carrying a watch on -/

section Poll

omit [Transports ω] in
theorem holds_watch {deadline : Nat}
    (found : t.flights[flight]? = some (.action (.watch channel w deadline))) :
    .listeners (w.subscription channel) ∈ t.held :=
  mem_held_of_heldBy (mem_heldBy.mpr ⟨_, found, List.mem_cons_self⟩)

variable (h : Wired t.client t.held) (timed : Timed start t.client.now added)
  (found : t.flights[flight]? = some (.action (.watch channel w (start + w.limit))))
  (queue : ∀ r ∈ t.client.races, r.id = w.race → r.queue = occurrences channel [w.event] added)

include h found queue

omit [Transports ω] in
theorem queue_watch :
    (t.client.races.find? fun r => r.id = w.race).elim [] OpenRace.queue =
      occurrences channel [w.event] added := by
  have heard : t.client.Heard (w.subscription channel).race (occurrences channel [w.event] added) :=
    queue
  exact heard.queue h (holds_watch found)

include timed

/-- A watch that is carried on ends if it is due; else nothing changes. -/
theorem poll_watch :
    t.step (.poll flight) =
      if w.due start (w.first? start (occurrences channel [w.event] added)) ≤ t.client.now then
        { t with
          client := t.client.closeWatch w (w.first? start (occurrences channel [w.event] added))
          flights := t.flights.set flight (.actionEnded
            (w.verdict (w.first? start (occurrences channel [w.event] added))) t.client.now) }
      else t := by
  obtain ⟨ordered, span⟩ := timed.heard channel [w.event]
  have named : ∀ o ∈ occurrences channel [w.event] added, o.event = w.event :=
    fun o member => List.mem_singleton.mp (event_of_mem_occurrences member)
  have polled := Client.pollWatch_eq channel (queue_watch h found queue) ordered span named
  rw [step, poll_action found, Client.poll, polled]
  split
  · rw [Client.now, Client.world_closeWatch]
    rfl
  · obtain ⟨below, same⟩ := List.getElem?_eq_some_iff.mp found
    have kept : t.flights.set flight (.action (.watch channel w (start + w.limit))) = t.flights := by
      rw [← same, List.set_getElem_self]
    show { t with flights := t.flights.set flight _ } = t
    rw [Flight.ofProgress, kept]

theorem isReady_watched :
    t.client.isReady (.watch channel w (start + w.limit)) =
      decide (w.due start (w.first? start (occurrences channel [w.event] added)) ≤ t.client.now) := by
  obtain ⟨ordered, span⟩ := timed.heard channel [w.event]
  exact Client.isReady_watch channel (queue_watch h found queue) ordered span

end Poll

/-! ### Steps and runs -/

theorem poll_ended {result : ActionResult} {time : Nat}
    (found : t.flights[flight]? = some (.actionEnded result time)) : t.poll flight = t := by
  unfold poll
  rw [found]

omit [Transports ω] in
theorem subject_ne (below : flight < t.flights.length) (other : event ≠ .poll flight) :
    t.subject event ≠ some flight := by
  intro same
  cases event with
  | dispatch | run => exact Nat.ne_of_gt below (Option.some.inj same)
  | poll polled => exact other (congrArg TabEvent.poll (Option.some.inj same))
  | _ => cases same

theorem flights_step_ended {result : ActionResult} {time : Nat}
    (found : t.flights[flight]? = some (.actionEnded result time)) :
    (t.step event).flights[flight]? = some (.actionEnded result time) := by
  by_cases polled : event = .poll flight
  · subst polled
    rw [step, poll_ended found]
    exact found
  · rw [flights_step_other (subject_ne (List.getElem?_eq_some_iff.mp found).1 polled)]
    exact found

theorem Watched.poll (h : Wired t.client t.held) (timed : Timed start t.client.now added)
    (watched : Watched w channel start flight prompt (occurrences channel [w.event] added) t) :
    (t.step (.poll flight)).client.history = t.client.history ∧
      (t.step (.poll flight)).client.now = t.client.now ∧
      Watched w channel start flight prompt (occurrences channel [w.event] added)
        (t.step (.poll flight)) := by
  cases watched with
  | waiting found queue onTime =>
    rw [poll_watch h timed found queue]
    split
    · rename_i reached
      have still : (t.client.closeWatch w (w.first? start
          (occurrences channel [w.event] added))).now = t.client.now :=
        congrArg Transports.now (Client.world_closeWatch _ _ _)
      refine ⟨Client.history_closeWatch _ _ _, still, .ended t.client.now ?_ reached ?_ ?_⟩
      · exact List.getElem?_set_self (List.getElem?_eq_some_iff.mp found).1
      · exact Nat.le_of_eq still.symm
      · exact fun prompt => Nat.le_antisymm (onTime prompt) reached
    · exact ⟨rfl, rfl, .waiting found queue onTime⟩
  | ended time found reached past onTime =>
    have same : t.step (.poll flight) = t := poll_ended found
    rw [same]
    exact ⟨rfl, rfl, .ended time found reached past onTime⟩

theorem queue_step (h : Wired t.client t.held) {deadline : Nat}
    (found : t.flights[flight]? = some (.action (.watch channel w deadline)))
    (grows : Grows t.client (t.step event).client more)
    (queue : ∀ r ∈ t.client.races, r.id = w.race → r.queue = occurrences channel [w.event] added) :
    ∀ r ∈ (t.step event).client.races, r.id = w.race →
      r.queue = occurrences channel [w.event] (added ++ more) := by
  have heard : t.client.Heard (w.subscription channel).race (occurrences channel [w.event] added) :=
    queue
  rw [occurrences_append]
  exact heard.grows h (holds_watch found) grows

theorem onTime_step (h : Wired t.client t.held) (timed : Timed start t.client.now added)
    (found : t.flights[flight]? = some (.action (.watch channel w (start + w.limit))))
    (grows : Grows t.client (t.step event).client more)
    (queue : ∀ r ∈ t.client.races, r.id = w.race → r.queue = occurrences channel [w.event] added)
    (onTime : t.client.now ≤ w.due start (w.first? start (occurrences channel [w.event] added)))
    (keeps : KeepsTime flight t event) :
    (t.step event).client.now ≤
      w.due start (w.first? start (occurrences channel [w.event] (added ++ more))) := by
  rw [occurrences_append]
  rcases keeps _ found with still | ⟨⟨world, today, rfl⟩, unready, within⟩
  · rw [still]
    exact Watch.due_append onTime fun o member => ((grows.timed.heard channel _).2 o member).1
  -- Only here does the clock move, and then nothing is dispatched.
  · have nothing : more = [] := List.self_eq_append_right.mp grows.history
    rw [isReady_watched h timed found queue] at unready
    have before := of_decide_eq_false unready
    rw [nothing]
    show _ ≤ w.due start (w.first? start (_ ++ []))
    rw [List.append_nil]
    cases first : w.first? start (occurrences channel [w.event] added) with
    | some o =>
      rw [first] at before
      have past : o.time ≤ t.client.now := ((timed.heard channel _).2 o (Watch.first?_mem first)).2
      exact absurd past before
    | none => exact within _ rfl

/-- Whatever happens, a watch goes on as it is to, or stays ended. -/
theorem Follows.step (reachable : Reachable t) (forward : Transports.Forward ω)
    (ahead : t.client.now ≤ (t.step event).client.now)
    (follows : Follows w channel start flight base prompt t) :
    Follows w channel start flight base (prompt ∧ KeepsTime flight t event) (t.step event) := by
  obtain ⟨added, history, timed, watched⟩ := follows
  have h := reachable.wired
  by_cases polled : event = .poll flight
  · subst polled
    obtain ⟨kept, still, watched⟩ := watched.poll h timed
    exact ⟨added, kept.trans history, still.symm ▸ timed, watched.imp And.left⟩
  · obtain ⟨more, grows⟩ := t.grows forward h event ahead
    refine ⟨added ++ more, ?_, timed.trans grows.timed, ?_⟩
    · rw [grows.history, history, List.append_assoc]
    -- Its flight stays as it is; what the event adds is heard by a watch that waits, and comes too
    -- late for one that has ended.
    cases watched with
    | waiting found queue onTime =>
      have other := subject_ne (List.getElem?_eq_some_iff.mp found).1 polled
      refine .waiting ((flights_step_other other).trans found) (queue_step h found grows queue) ?_
      exact fun both => onTime_step h timed found grows queue (onTime both.1) both.2
    | ended time found reached past onTime =>
      have later : ∀ o ∈ occurrences channel [w.event] more, t.client.now ≤ o.time :=
        fun o member => ((grows.timed.heard channel _).2 o member).1
      have stable := Watch.first?_stable (Nat.le_trans reached past) later
      rw [occurrences_append]
      refine .ended time ?_ ?_ (Nat.le_trans past ahead) ?_
      · rw [stable]
        exact flights_step_ended found
      · rw [stable]
        exact reached
      · rw [stable]
        exact fun both => onTime both.1

theorem Follows.run (reachable : Reachable t) (forward : Transports.Forward ω)
    {events : List (TabEvent ω)} (ahead : Forward t events)
    (follows : Follows w channel start flight base prompt t) :
    Follows w channel start flight base (prompt ∧ Prompt flight t events) (t.run events) := by
  -- `prompt` collects what has been asked of the events before.
  induction events generalizing t prompt with
  | nil => exact follows.imp And.left
  | cons event events ih =>
    have stepped := ih (reachable.step event) ahead.2 (follows.step reachable forward ahead.1)
    exact stepped.imp and_assoc.mpr

/-! ### The start of a watch -/

section Start

variable {action : Action} {kind : WatchKind} {a : WatchAction} {page : Page}
  {socket : SocketChannel}

omit [Transports ω] in
theorem queue_watching (h : Wired t.client t.held) (a : WatchAction) (channel : ChannelId) :
    ∀ r ∈ (t.client.watching a channel).races, r.id = t.client.started → r.queue = [] := by
  have drawn : Wired (t.client.draw (t.client.profile.timeout a.timeout)).1 t.held :=
    h.of_eq rfl rfl rfl h.recorded
  exact Client.heard_install drawn channel [a.event]

theorem Reachable.start_watch (reachable : Reachable t) (watches : action.watch? = some (kind, a))
    (current : t.client.session.page = some page)
    (recorded : page.channels.find? (t.client.profile.namespaceOf a.ns) = some socket) :
    t.step (.dispatch action) = t.launch
      (if (t.client.watchFor kind a).limit = 0 then
        ((t.client.watching a socket.handle).closeWatch (t.client.watchFor kind a) none,
          .done ((t.client.watchFor kind a).verdict none))
      else
        (t.client.watching a socket.handle, .waiting (.watch socket.handle
          (t.client.watchFor kind a) (t.client.now + (t.client.watchFor kind a).limit)))) := by
  have present : socket ∈ t.client.session.channels := by
    unfold Session.channels
    rw [current]
    exact List.mem_map_of_mem (Entries.mem_of_find? recorded)
  have drawn : Wired (t.client.draw (t.client.profile.timeout a.timeout)).1 t.held :=
    reachable.wired.of_eq rfl rfl rfl reachable.wired.recorded
  have wired := drawn.install (reachable.wired.recorded _ present) (List.nodup_singleton a.event)
  obtain ⟨r, found, _, own⟩ := wired.exists_race List.mem_cons_self
  have empty : ((t.client.watching a socket.handle).races.find? fun r =>
      r.id = (t.client.watchFor kind a).race).elim [] OpenRace.queue = [] := by
    have first : (t.client.watching a socket.handle).races.find? (fun r =>
        r.id = (t.client.watchFor kind a).race) = some r := found
    rw [first]
    exact queue_watching reachable.wired a socket.handle r (List.mem_of_find?_eq_some found) own
  have span : ∀ o ∈ ([] : List Occurrence), t.client.now ≤ o.time ∧
      o.time ≤ (t.client.watching a socket.handle).now := nofun
  -- The race is polled at once, so a limit of zero is over before anything is heard.
  have polled := Client.pollWatch_eq socket.handle empty .nil span nofun
  rw [Tab.step, Client.dispatch_watch watches current recorded, polled]
  congr 1
  show (if t.client.now + (t.client.watchFor kind a).limit ≤ t.client.now then _ else _) = _
  by_cases none_left : (t.client.watchFor kind a).limit = 0
  · rw [if_pos none_left, if_pos (by omega)]
    rfl
  · rw [if_neg none_left, if_neg (by omega)]

theorem Reachable.follows (reachable : Reachable t) (watches : action.watch? = some (kind, a))
    (current : t.client.session.page = some page)
    (recorded : page.channels.find? (t.client.profile.namespaceOf a.ns) = some socket) :
    Follows (t.client.watchFor kind a) socket.handle t.client.now t.flights.length
      t.client.history True (t.step (.dispatch action)) := by
  rw [reachable.start_watch watches current recorded]
  split
  · rename_i none_left
    have still : ((t.client.watching a socket.handle).closeWatch (t.client.watchFor kind a)
        none).now = t.client.now := congrArg Transports.now (Client.world_closeWatch _ _ _)
    have due : (t.client.watchFor kind a).due t.client.now none = t.client.now := by
      show t.client.now + _ = _
      rw [none_left, Nat.add_zero]
    refine ⟨[], ?_, .silent (Nat.le_of_eq still.symm) rfl, .ended t.client.now ?_ ?_ ?_ ?_⟩
    · exact (Client.history_closeWatch _ _ _).trans (List.append_nil _).symm
    · rw [← still]
      exact List.getElem?_concat_length
    · exact Nat.le_of_eq due
    · exact Nat.le_of_eq still.symm
    · exact fun _ => due.symm
  · refine ⟨[], (List.append_nil _).symm, .silent (Nat.le_refl _) rfl, .waiting ?_ ?_ ?_⟩
    · exact List.getElem?_concat_length
    · exact queue_watching reachable.wired a socket.handle
    · exact fun _ => Nat.le_add_right _ _

theorem Reachable.event_start (reachable : Reachable t) (watches : action.watch? = some (kind, a))
    (current : t.client.session.page = some page)
    (recorded : page.channels.find? (t.client.profile.namespaceOf a.ns) = some socket) :
    (t.step (.dispatch action)).client.session.event = t.client.session.event := by
  rw [reachable.start_watch watches current recorded]
  split
  · exact Client.event_closeWatch _ _ _
  · rfl

/-- A watch ends with the first occurrence that counts among those which its channel dispatches for
its event from its start on and before its time is over, else with the end of its time. That holds
whatever else happens on the tab and whenever the watch is carried on; if nothing holds it up, it
ends at that very moment. The occurrence that it ends with becomes the current event of the session,
which a watch leaves alone otherwise. -/
theorem Reachable.watch_verdict (reachable : Reachable t) (forward : Transports.Forward ω)
    (watches : action.watch? = some (kind, a)) (current : t.client.session.page = some page)
    (recorded : page.channels.find? (t.client.profile.namespaceOf a.ns) = some socket)
    {events : List (TabEvent ω)} (ahead : Forward (t.step (.dispatch action)) events) :
    let flight := t.flights.length
    let started := t.step (.dispatch action)
    let t' := started.run events
    let w := t.client.watchFor kind a
    let first := w.first? t.client.now (occurrences socket.handle [a.event]
      (t'.client.history.drop t.client.history.length))
    let due := w.due t.client.now first
    started.client.session.event = t.client.session.event ∧
      ((∃ time, t'.flights[flight]? = some (.actionEnded (w.verdict first) time) ∧ due ≤ time ∧
          (Prompt flight started events → time = due)) ∨
        ∃ job, t'.flights[flight]? = some (.action job) ∧
          (Prompt flight started events → t'.client.now ≤ due) ∧
          (∀ event, event ≠ .poll flight →
            (t'.step event).flights[flight]? = some (.action job)) ∧
          (t'.client.now < due → t'.step (.poll flight) = t') ∧
          (due ≤ t'.client.now →
            (t'.step (.poll flight)).flights[flight]? =
                some (.actionEnded (w.verdict first) t'.client.now) ∧
              (t'.step (.poll flight)).client.session.event =
                first.elim t'.client.session.event fun o => some (w.report o))) := by
  intro flight started t' w first due
  refine ⟨reachable.event_start watches current recorded, ?_⟩
  have wired : Wired t'.client t'.held := ((reachable.step _).run events).wired
  obtain ⟨timed, watched⟩ :=
    ((reachable.follows watches current recorded).run (reachable.step _) forward ahead).heard
  cases watched with
  | ended time found reached past onTime =>
    exact .inl ⟨time, found, reached, fun prompt => onTime ⟨trivial, prompt⟩⟩
  | waiting found queue onTime =>
    have polled := poll_watch wired timed found queue
    refine .inr ⟨_, found, fun prompt => onTime ⟨trivial, prompt⟩, ?_, ?_, ?_⟩
    · intro event other
      exact (flights_step_other (subject_ne (List.getElem?_eq_some_iff.mp found).1 other)).trans found
    · intro before
      exact polled.trans (if_neg (Nat.not_le.mpr before))
    · intro reached
      rw [polled.trans (if_pos reached)]
      exact ⟨List.getElem?_set_self (List.getElem?_eq_some_iff.mp found).1,
        Client.event_closeWatch _ _ _⟩

end Start

/-! ### A watch on servers that answer at once -/

open Scenario in
theorem servers_forward : Transports.Forward Servers := by
  have planned (channel : ChannelId) (rest : List Json) (echoes : List Echo) (s : Servers) :
      (echoes.foldl (fun s e => s.plan e.ms channel (.signal ⟨e.reply, rest⟩)) s).now = s.now := by
    induction echoes generalizing s with
    | nil => rfl
    | cons e echoes ih => exact ih (s.plan e.ms channel _)
  intro s s' called
  cases called with
  | send | disconnect => exact Nat.le_refl _
  | openChannel opened =>
    simp only [Transports.openChannel, Servers.openChannel] at opened
    split at opened
    · cases opened
    · cases opened
      exact Nat.le_refl _
  | connect channel s =>
    simp only [Transports.connect, Servers.connect]
    split
    · exact Nat.le_refl _
    · split
      · exact Nat.le_refl _
      · simp only [Servers.answerAttempt]
        split
        · exact Nat.le_refl _
        · split
          · exact Nat.le_refl _
          · split <;> exact Nat.le_refl _
      · exact Nat.le_refl _
  | emit sent =>
    simp only [Transports.emit, Servers.emit] at sent
    split at sent
    · cases sent
    · split at sent
      · cases sent
        exact Nat.le_of_eq (planned _ _ _ s).symm
      · cases sent
        exact Nat.le_refl _

/-- A watch that hears something else, then what it waits for, and is then carried on. -/
theorem watch_verdict_news :
    let action : Action := .awaitEmit { event := "news", timeout := some (.fixed 10) }
    let later : Scenario.Servers := { connected.client.world with now := 4 }
    let t' := (connected.step (.dispatch action)).run
      [.fire 0 ⟨"noise", []⟩, .pass later 0, .fire 0 ⟨"news", []⟩, .poll 2]
    ∃ e : SocketEvent, e.name = "news" ∧
      t'.flights[2]? = some (.actionEnded (.ok (.event e)) 4) := by
  intro action later t'
  let a : WatchAction := { event := "news", timeout := some (.fixed 10) }
  let w := connected.client.watchFor .expect a
  let started := connected.step (.dispatch action)
  let noisy := started.step (.fire 0 ⟨"noise", []⟩)
  have loaded : connected.client.session.page.isSome = true := by decide +kernel
  obtain ⟨page, current⟩ := Option.isSome_iff_exists.mp loaded
  have entry : (connected.client.session.page.bind fun p =>
      p.channels.find? (connected.client.profile.namespaceOf none)).map SocketChannel.handle =
        some 0 := by decide +kernel
  rw [current] at entry
  obtain ⟨socket, recorded, handle⟩ := Option.map_eq_some_iff.mp entry
  have ahead : Forward started
      [.fire 0 ⟨"noise", []⟩, .pass later 0, .fire 0 ⟨"news", []⟩, .poll 2] := by
    refine ⟨?_, ?_, ?_, ?_, trivial⟩ <;> decide +kernel
  have watches : action.watch? = some (.expect, a) := rfl
  obtain ⟨-, ⟨time, found, -, exact_⟩ | ⟨job, found, -⟩⟩ :=
    Reachable.watch_verdict connected_reachable servers_forward watches current recorded ahead
  all_goals have number : connected.flights.length = 2 := by decide +kernel
  all_goals rw [number] at found
  · rw [handle] at found exact_
    have heard : ((w.first? connected.client.now (occurrences 0 ["news"]
        (t'.client.history.drop connected.client.history.length))).map
        fun o => (o.event, o.time)) = some ("news", 4) := by decide +kernel
    obtain ⟨o, first, news⟩ := Option.map_eq_some_iff.mp heard
    have prompt : Prompt 2 started
        [.fire 0 ⟨"noise", []⟩, .pass later 0, .fire 0 ⟨"news", []⟩, .poll 2] := by
      refine ⟨fun _ _ => .inl (by decide +kernel), ?_, fun _ _ => .inl (by decide +kernel),
        fun _ _ => .inl (by decide +kernel), trivial⟩
      intro job waits
      have patient : (noisy.flights[2]?.all fun
          | .action job => !noisy.client.isReady job && job.deadline?.all fun d => 4 ≤ d
          | _ => true) = true := by decide +kernel
      rw [waits] at patient
      obtain ⟨unready, within⟩ := Bool.and_eq_true_iff.mp patient
      refine .inr ⟨⟨later, 0, rfl⟩, by simpa using unready, fun deadline due => ?_⟩
      rw [Option.mem_def.mp due] at within
      exact of_decide_eq_true within
    obtain ⟨name, arrived⟩ := Prod.mk.inj news
    have ends := exact_ prompt
    rw [first] at found ends
    have time_eq : time = 4 := ends.trans arrived
    rw [time_eq] at found
    exact ⟨w.report o, name, found⟩
  · have reached : (t'.flights[2]?.any fun | .action _ => false | _ => true) = true := by
      decide +kernel
    rw [found] at reached
    cases reached

end LiveSession.Tab
