import LiveSession.Proofs.Connection.Attendance

/-!
# When a connection shuts down

A connection goes through stages: it is unstarted, in use, shut down, or its loop has ended. What the
server does can set it adrift: nothing is sent over it any more, and the hub does not know. Each
event keeps `Attended`, so `shutdown_iff` holds after every run: when the last channel has left, the
hub is closed, unless the server has done one of three things.
-/

namespace LiveSession.Hub

variable {h h' : Hub} {r r' : Attendance} {id : ChannelId} {g : ChannelState → ChannelState}

def IsLive (h : Hub) : Prop :=
  h.phase = .handshake ∨ h.phase = .running

theorem IsLive.of_phase (live : h.IsLive) (phase : h'.phase = h.phase) : h'.IsLive := by
  unfold IsLive
  rw [phase]
  exact live

theorem IsLive.ne_ended (live : h.IsLive) : h.phase ≠ .ended := by
  rcases live with phase | phase <;> simp [phase]

theorem ne_idle_of_used (state : h.state = .connecting ∨ h.state = .opened) : h.state ≠ .idle := by
  rcases state with state | state <;> simp [state]

theorem ne_closed_of_used (state : h.state = .connecting ∨ h.state = .opened) :
    h.state ≠ .closed := by
  rcases state with state | state <;> simp [state]

/-- How far the connection is, and what that says about who uses it. -/
inductive Stage (h : Hub) (r : Attendance) : Prop
  | unstarted (phase : h.phase = .unstarted) (state : h.state = .idle)
      (accepting : h.accepting = false) (nobody : h.attached = []) (ended : r.ended = false)
      (reopened : r.reopened = false)
  | active (live : h.IsLive) (state : h.state = .connecting ∨ h.state = .opened)
      (accepting : h.accepting = true) (somebody : h.attached ≠ []) (ended : r.ended = false)
      (reopened : r.reopened = false)
  /-- The last channel has left, and others that come are refused. -/
  | shut (live : h.IsLive) (state : h.state = .closed) (accepting : h.accepting = false)
      (told : .shutdown ∈ h.queue)
      (refused : ∀ e ∈ h.attached, (h.channel e.2).state = .errored) (ended : r.ended = false)
      (reopened : r.reopened = false)
  /-- The hub is to shut down and does not know. -/
  | adrift (live : h.IsLive) (state : h.state = .connecting ∨ h.state = .opened)
      (accepting : h.accepting = false) (server : r.ended = true ∨ r.reopened = true)
  | finished (phase : h.phase = .ended) (state : h.state = .closed)
      (accepting : h.accepting = false)

/-- The attendance tells who is attached and how far the connection is. -/
structure Attended (h : Hub) (r : Attendance) : Prop where
  roster : Roster h r
  stage : Stage h r

namespace Stage

theorem of_keeps (stage : Stage h r) (keeps : Keeps h h')
    (refused : ∀ e ∈ h.attached, (h.channel e.2).state = .errored →
      (h'.channel e.2).state = .errored) : Stage h' r := by
  cases stage with
  | unstarted phase state accepting nobody ended reopened =>
    exact .unstarted (keeps.phase.trans phase) (keeps.state.trans state)
      (keeps.accepting.trans accepting) (keeps.attached.trans nobody) ended reopened
  | active live state accepting somebody ended reopened =>
    refine .active (live.of_phase keeps.phase) ?_ (keeps.accepting.trans accepting) ?_ ended reopened
    · rw [keeps.state]
      exact state
    · rw [keeps.attached]
      exact somebody
  | shut live state accepting told errored ended reopened =>
    refine .shut (live.of_phase keeps.phase) (keeps.state.trans state) (keeps.accepting.trans accepting)
      (keeps.queue _ told) ?_ ended reopened
    rw [keeps.attached]
    exact fun e member => refused e member (errored e member)
  | adrift live state accepting server =>
    refine .adrift (live.of_phase keeps.phase) ?_ (keeps.accepting.trans accepting) server
    rw [keeps.state]
    exact state
  | finished phase state accepting =>
    exact .finished (keeps.phase.trans phase) (keeps.state.trans state)
      (keeps.accepting.trans accepting)

theorem of_flags (stage : Stage h r) (ended : r'.ended = r.ended)
    (reopened : r'.reopened = r.reopened) : Stage h r' := by
  cases stage with
  | unstarted phase state accepting nobody was was' =>
    exact .unstarted phase state accepting nobody (ended.trans was) (reopened.trans was')
  | active live state accepting somebody was was' =>
    exact .active live state accepting somebody (ended.trans was) (reopened.trans was')
  | shut live state accepting told refused was was' =>
    exact .shut live state accepting told refused (ended.trans was) (reopened.trans was')
  | adrift live state accepting server =>
    refine .adrift live state accepting ?_
    rw [ended, reopened]
    exact server
  | finished phase state accepting => exact .finished phase state accepting

end Stage

namespace Attended

theorem calm (a : Attended h r) (calm : Calm h h') : Attended h' r := by
  refine ⟨a.roster.calm calm, a.stage.of_keeps calm.toKeeps fun e member errored => ?_⟩
  rw [calm.states e.2 (a.roster.below e member)]
  exact errored

theorem turns (a : Attended h r) (turns : Turns id g h h')
    (closed : g (h.channel id).state = .closed ↔ (h.channel id).state = .closed)
    (errored : g .errored = .errored) : Attended h' r := by
  refine ⟨a.roster.turns turns closed, a.stage.of_keeps turns.toKeeps fun e member was => ?_⟩
  by_cases same : e.2 = id
  · rw [same] at was ⊢
    rw [turns.turned, was]
    exact errored
  · rw [turns.others e.2 (a.roster.below e member) same]
    exact was

/-! ### Frames of the server -/

theorem opened (a : Attended h r) (running : h.phase = .running) (info : OpenInfo) :
    Attended (h.receive (.opened info)).1 (h.attendFrame r (.opened info)) := by
  have opened : Attended { h with state := .opened }
      (if h.accepting then r else { r with reopened := true }) := by
    cases a.stage with
    | unstarted phase => simp [running] at phase
    | active live state accepting somebody ended reopened =>
      rw [if_pos accepting]
      exact ⟨a.roster.of_same rfl rfl rfl rfl, .active live (.inr rfl) accepting somebody ended reopened⟩
    | shut live state accepting =>
      rw [if_neg (Bool.eq_false_iff.mp accepting)]
      exact ⟨a.roster.of_same rfl rfl rfl rfl, .adrift live (.inr rfl) accepting (.inr rfl)⟩
    | adrift live state accepting =>
      rw [if_neg (Bool.eq_false_iff.mp accepting)]
      exact ⟨a.roster.of_same rfl rfl rfl rfl, .adrift live (.inr rfl) accepting (.inr rfl)⟩
    | finished phase => simp [running] at phase
  exact opened.calm (calm_sendFrames _ _ _)

theorem closed (a : Attended h r) (running : h.phase = .running) :
    Attended (h.receive .close).1 (h.attendFrame r .close) := by
  show Attended h.shutDown (if h.accepting then { r with ended := true } else r)
  cases accepting : h.accepting with
  | true =>
    have after : h.shutDown = { h with queue := h.queue ++ [.shutdown], accepting := false } := by
      simp only [shutDown, enqueue, accepting, if_true]
    rw [after, if_pos rfl]
    refine ⟨a.roster.of_same rfl rfl rfl rfl, ?_⟩
    -- The queue takes commands in one stage only; the state stays open, so the hub is adrift.
    cases a.stage with
    | active live state => exact .adrift live state rfl (.inl rfl)
    | unstarted phase => simp [running] at phase
    | shut _ _ refuses | adrift _ _ refuses | finished _ _ refuses => simp [accepting] at refuses
  | false =>
    have after : h.shutDown = h := by
      unfold shutDown enqueue
      rw [if_neg (Bool.eq_false_iff.mp accepting), ← accepting]
    rw [after, if_neg Bool.false_ne_true]
    exact a

theorem hand (a : Attended h r) {p : SocketPacket} (addressed : h.addressee? p.ns = some id) :
    Attended (h.hand id p) (if h.expels p then r.expel p.ns else r) := by
  have attached : h.attached.find? p.ns = some id := (Option.filter_eq_some_iff.mp addressed).1
  have below : id < h.channels.length := a.roster.below _ (Entries.mem_of_find? attached)
  have expels_eq : h.expels p =
      (decide (p.kind = .disconnect) && decide ((h.channel id).state = .connected)) := by
    unfold expels
    rw [addressed, Option.any_some]
  rw [expels_eq]
  unfold Hub.hand
  cases p.kind with
  | connect =>
    refine a.turns (turns_onConnected below) ?_ rfl
    cases (h.channel id).state <;> simp [ChannelState.connects]
  | error =>
    refine a.turns (turns_onConnectError below _) ?_ rfl
    cases (h.channel id).state <;> simp [ChannelState.fails]
  | event =>
    dsimp only
    cases p.eventParts? with
    | some parts => exact a.calm (calm_onEvent h id parts.1 parts.2)
    | none => exact a
  | ack => exact a
  | disconnect =>
    simp only [decide_true, Bool.true_and, decide_eq_true_eq]
    -- A connected channel is closed and stays listed; nobody in `shut` is connected.
    by_cases connected : (h.channel id).state = .connected
    · rw [if_pos connected]
      refine ⟨a.roster.expel attached (turns_onClosed below _) connected, ?_⟩
      refine Stage.of_flags (r := r) ?_ rfl rfl
      refine a.stage.of_keeps (turns_onClosed below _).toKeeps fun e member errored => ?_
      have different : e.2 ≠ id := by
        rintro rfl
        rw [connected] at errored
        cases errored
      rw [(turns_onClosed below _).others e.2 (a.roster.below e member) different]
      exact errored
    · rw [if_neg connected]
      refine a.turns (turns_onClosed below _) ?_ rfl
      cases state : (h.channel id).state with
      | connected => exact absurd state connected
      | _ => simp [ChannelState.closes]

theorem receive (a : Attended h r) (running : h.phase = .running) (frame : EnginePacket) :
    Attended (h.receive frame).1 (h.attendFrame r frame) := by
  cases frame with
  | opened info => exact a.opened running info
  | close => exact a.closed running
  | message p =>
    have calm : Attended (h.note p) r := a.calm (calm_note h p)
    obtain ⟨confirmed, noted⟩ := h.note_eq p
    have same : (h.note p).expels p = h.expels p := by rw [noted]; rfl
    show Attended (h.receivePacket p) (if h.expels p then r.expel p.ns else r)
    rw [← same]
    unfold receivePacket
    dsimp only
    cases addressed : (h.note p).addressee? p.ns with
    | some id => exact calm.hand addressed
    | none =>
      have nobody : (h.note p).expels p = false := by
        unfold expels
        rw [addressed, Option.any_none, Bool.and_false]
      rw [nobody]
      exact calm
  | ping | pong | upgrade | noop => exact a

/-! ### The end of the loop -/

theorem keeps_finish (a : Attended h r) (failure : Option String) :
    Keeps h.closing (h.finish failure) := by
  rw [finish_eq]
  refine keeps_tellAll failure _ fun id member => ?_
  obtain ⟨e, present, rfl⟩ := List.mem_map.mp member
  exact a.roster.below e present

theorem finish (a : Attended h r) (failure : Option String) :
    Attended (h.finish failure) { r with expelled := [] } := by
  have keeps := a.keeps_finish failure
  exact ⟨.of_nobody keeps.attached rfl, .finished keeps.phase keeps.state keeps.accepting⟩

/-! ### Channels that come and go -/

theorem join (a : Attended h r) (below : id < h.channels.length) (joins : Joins id h h') :
    Attended h' (r.join id (h.channel id).wire) := by
  refine ⟨a.roster.join below joins.attached joins.apart joins.opened, ?_⟩
  have mine : ((h.channel id).wire, id) ∈ h'.attached := by
    rw [joins.attached]
    exact Entries.mem_of_find? (Entries.find?_set_self _ _ _)
  have somebody : h'.attached ≠ [] := List.ne_nil_of_mem mine
  refine Stage.of_flags (r := r) ?_ rfl rfl
  cases a.stage with
  | unstarted phase state accepting nobody ended reopened =>
    obtain ⟨connecting, handshake, accepts⟩ := joins.first state
    exact .active (.inl handshake) (.inl connecting) accepts somebody ended reopened
  | active live state accepting _ ended reopened =>
    obtain ⟨state', phase', accepting', _⟩ := joins.later (ne_idle_of_used state)
    refine .active (live.of_phase phase') ?_ (accepting'.trans accepting) somebody ended reopened
    rw [state']
    exact state
  | shut live state accepting told refused ended reopened =>
    obtain ⟨state', phase', accepting', queue⟩ := joins.later (by simp [state])
    refine .shut (live.of_phase phase') (state'.trans state) (accepting'.trans accepting)
      (queue _ told) ?_ ended reopened
    intro e member
    by_cases same : e.2 = id
    · rw [same]
      exact joins.refused state
    · rw [joins.attached] at member
      have old := (Entries.mem_of_mem_set member).resolve_left fun new => same (by rw [new])
      rw [joins.apart.others e.2 (a.roster.below e old) same]
      exact refused e old
  | adrift live state accepting server =>
    obtain ⟨state', phase', accepting', _⟩ := joins.later (ne_idle_of_used state)
    refine .adrift (live.of_phase phase') ?_ (accepting'.trans accepting) server
    rw [state']
    exact state
  | finished phase state accepting =>
    obtain ⟨state', phase', accepting', _⟩ := joins.later (by simp [state])
    exact .finished (phase'.trans phase) (state'.trans state) (accepting'.trans accepting)

theorem leave (a : Attended h r) (below : id < h.channels.length)
    (open_ : (h.channel id).state ≠ .closed) (keeps : Keeps h h') (apart : Apart id h h') :
    Attended (h'.detach id) (r.leave id) := by
  have wire : (h'.channel id).wire = (h.channel id).wire := keeps.wires id below
  have others (e : String × ChannelId) (member : e ∈ h.attached) (different : e.2 ≠ id)
      (errored : (h.channel e.2).state = .errored) : (h'.channel e.2).state = .errored := by
    rw [apart.others e.2 (a.roster.below e member) different]
    exact errored
  -- Another channel has the place, or this was the last one, or others remain or nothing is taken.
  have cases_ := h'.detach_cases id
  rw [wire, keeps.attached, keeps.accepting] at cases_
  rcases cases_ with ⟨away, after⟩ | ⟨attached, accepting, nobody, after⟩ | ⟨attached, more, after⟩
  · rw [after]
    have absent (e : String × ChannelId) (member : e ∈ h.attached) : e.2 ≠ id :=
      a.roster.absent member away
    refine ⟨a.roster.leave ?_ ?_ apart open_, Stage.of_flags (r := r) ?_ rfl rfl⟩
    · intro e
      rw [keeps.attached]
      exact ⟨fun member => ⟨member, absent e member⟩, And.left⟩
    · rw [keeps.attached]
      exact a.roster.names
    · exact a.stage.of_keeps keeps fun e member => others e member (absent e member)
  · have erased : (h'.detach id).attached = h.attached.erase (h.channel id).wire := by
      rw [after, nobody]
    have gone : Apart id h (h'.detach id) := by
      rw [after]
      exact ⟨apart.count, apart.wires, apart.others⟩
    refine ⟨a.roster.erase attached erased gone open_, Stage.of_flags (r := r) ?_ rfl rfl⟩
    cases a.stage with
    | active live _ _ _ ended reopened =>
      rw [after]
      exact .shut (live.of_phase keeps.phase) rfl rfl (List.mem_append_right _ List.mem_cons_self)
        nofun ended reopened
    | unstarted _ _ refuses | shut _ _ refuses | adrift _ _ refuses | finished _ _ refuses =>
      simp [accepting] at refuses
  · have erased : (h'.detach id).attached = h.attached.erase (h.channel id).wire := by
      rw [after]
    have gone : Apart id h (h'.detach id) := by
      rw [after]
      exact ⟨apart.count, apart.wires, apart.others⟩
    refine ⟨a.roster.erase attached erased gone open_, Stage.of_flags (r := r) ?_ rfl rfl⟩
    rw [after]
    cases a.stage with
    | unstarted _ _ _ nobody =>
      rw [nobody] at attached
      cases attached
    | active live state accepting _ ended reopened =>
      refine .active (live.of_phase keeps.phase) ?_ accepting (more accepting) ended reopened
      show h'.state = _ ∨ h'.state = _
      rw [keeps.state]
      exact state
    | shut live state accepting told refused ended reopened =>
      refine .shut (live.of_phase keeps.phase) (keeps.state.trans state) accepting (keeps.queue _ told) ?_ ended
        reopened
      intro e member
      obtain ⟨old, different⟩ := Entries.mem_erase.mp member
      exact others e old ((a.roster.place old attached).mp different) (refused e old)
    | adrift live state accepting server =>
      refine .adrift (live.of_phase keeps.phase) ?_ accepting server
      show h'.state = _ ∨ h'.state = _
      rw [keeps.state]
      exact state
    | finished phase state accepting =>
      exact .finished (keeps.phase.trans phase) (keeps.state.trans state) accepting

/-! ### Events -/

theorem lt_of_isHeld (held : h.isHeld id = true) : id < h.channels.length := by
  by_contra above
  unfold isHeld at held
  rw [List.getElem?_eq_none (Nat.le_of_not_lt above)] at held
  cases held

theorem dropped_of_isHeld (held : h.isHeld id = true) : (h.channel id).dropped = false := by
  have below := lt_of_isHeld held
  unfold isHeld at held
  unfold channel
  rw [List.getElem?_eq_getElem below] at held ⊢
  simpa using held

theorem connect (a : Attended h r) (id : ChannelId) :
    Attended (h.step (.connect id)) (h.attend r (.connect id)) := by
  show Attended (if h.isHeld id then h.connect id else h)
    (if h.joins id then r.join id (h.channel id).wire else r)
  by_cases held : h.isHeld id = true
  · rw [if_pos held]
    have joins_iff : h.joins id = true ↔
        (h.channel id).state ≠ .connecting ∧ (h.channel id).state ≠ .connected := by
      simp [joins, held]
    by_cases closed : h.joins id = true
    · rw [if_pos closed]
      have below := lt_of_isHeld held
      exact a.join below (joins_connect below (joins_iff.mp closed))
    · rw [if_neg closed]
      have same : h.connect id = h := by
        unfold Hub.connect
        cases state : (h.channel id).state with
        | connecting | connected => rfl
        | _ => exact absurd (joins_iff.mpr (by simp [state])) closed
      rw [same]
      exact a
  · rw [if_neg held, if_neg]
    · exact a
    · intro joins
      unfold Hub.joins at joins
      simp [held] at joins

theorem forget (a : Attended h r) (closed : (h.channel id).state = .closed) :
    Attended h (r.leave id) :=
  ⟨a.roster.forget closed, a.stage.of_flags rfl rfl⟩

theorem disconnect (a : Attended h r) (below : id < h.channels.length) :
    Attended (h.disconnect id) (r.leave id) := by
  unfold Hub.disconnect
  dsimp only
  by_cases closed : (h.channel id).state = .closed
  · rw [if_pos closed]
    exact a.forget closed
  · rw [if_neg closed]
    let h₁ := h.modify id fun c => { c with state := .closed, buffer := [] }
    have turned : Turns id (fun _ => .closed) h h₁ := turns_modify below _ (fun _ => rfl) rfl
    split
    · have sent : Calm h₁ (h₁.enqueue (.send (.message (.disconnect (h.channel id).wire)))) :=
        calm_enqueue _ _
      have left := a.leave below closed (turned.toKeeps.trans sent.toKeeps)
        (turned.apart.trans sent.apart)
      exact left.calm (calm_dispatch _ _ _ _)
    · exact a.leave below closed turned.toKeeps turned.apart

theorem drop (a : Attended h r) (held : h.isHeld id = true) :
    Attended (h.drop id) (r.leave id) := by
  have below := lt_of_isHeld held
  have present := dropped_of_isHeld held
  let h₁ := h.modify id fun c => { c with dropped := true }
  have calm : Calm h h₁ := calm_modify h id _ (fun _ => rfl) fun _ => rfl
  unfold Hub.drop
  rw [if_neg (Bool.eq_false_iff.mp present)]
  show Attended (if (h₁.channel id).state = .closed then h₁ else h₁.detach id) _
  rw [calm.states id below]
  split
  · rename_i closed
    exact (a.forget closed).calm calm
  · rename_i open_
    exact a.leave below open_ calm.toKeeps calm.apart

theorem step (a : Attended h r) (event : HubEvent) : Attended (h.step event) (h.attend r event) := by
  cases event with
  | create ns => exact a.calm (calm_create h ns)
  | listen id event =>
    show Attended (if h.isHeld id then h.listen id event else h) r
    split
    · exact a.calm (calm_listen h id event)
    · exact a
  | unlisten id event number =>
    show Attended (if h.isHeld id then h.unlisten id event number else h) r
    split
    · exact a.calm (calm_unlisten h id event number)
    · exact a
  | connect id => exact a.connect id
  | disconnect id =>
    show Attended (if h.isHeld id then h.disconnect id else h) (if h.isHeld id then r.leave id else r)
    split
    · rename_i held
      exact a.disconnect (lt_of_isHeld held)
    · exact a
  | emit id args =>
    unfold Hub.step attend
    dsimp only
    split
    · split
      · rename_i emitted
        exact a.calm (calm_emit emitted)
      · exact a
    · exact a
  | drop id =>
    show Attended (if h.isHeld id then h.drop id else h) (if h.isHeld id then r.leave id else r)
    split
    · rename_i held
      exact a.drop held
    · exact a
  | accepted =>
    show Attended (if h.phase = .handshake then { h with phase := .running } else h) r
    split
    · rename_i handshake
      refine ⟨a.roster.of_same rfl rfl rfl rfl, ?_⟩
      cases a.stage with
      | unstarted phase | finished phase => simp [handshake] at phase
      | active _ state accepting somebody ended reopened =>
        exact .active (.inr rfl) state accepting somebody ended reopened
      | shut _ state accepting told refused ended reopened =>
        exact .shut (.inr rfl) state accepting told refused ended reopened
      | adrift _ state accepting server => exact .adrift (.inr rfl) state accepting server
    · exact a
  | receive frame =>
    show Attended (if h.phase = .running then (h.receive frame).1 else h)
      (if h.phase = .running then h.attendFrame r frame else r)
    split
    · rename_i running
      exact a.receive running frame
    · exact a
  | finish failure =>
    show Attended (if h.phase = .handshake ∨ h.phase = .running then h.finish failure else h)
      (if h.phase = .handshake ∨ h.phase = .running then { r with expelled := [] } else r)
    split
    · exact a.finish failure
    · exact a

theorem run (a : Attended h r) (events : List HubEvent) :
    Attended (h.run events) (h.attendance r events) := by
  induction events generalizing h r with
  | nil => exact a
  | cons event events ih => exact ih (a.step event)

theorem fresh (url : Url) (cookie : Option String) : Attended { url, cookie } {} :=
  ⟨.of_nobody rfl rfl, .unstarted rfl rfl rfl rfl rfl rfl⟩

end Attended

/-! ### When everybody has left -/

/-- When everybody who has attached has left, the hub is closed and told to shut down if the loop
has ended, or if the server has not disconnected a channel in whose place no other has come, has not
ended the session while the hub was in use, and has not opened it after the hub was told; and only
then. -/
theorem shutdown_iff (url : Url) (cookie : Option String) (events : List HubEvent)
    (started : (run { url, cookie } events).phase ≠ .unstarted)
    (nobody : (attendance { url, cookie } {} events).users = []) :
    ((run { url, cookie } events).state = .closed ∧
        (.shutdown ∈ (run { url, cookie } events).queue ∨
          (run { url, cookie } events).phase = .ended)) ↔
      ((run { url, cookie } events).phase = .ended ∨
        (attendance { url, cookie } {} events).expelled = [] ∧
          (attendance { url, cookie } {} events).ended = false ∧
          (attendance { url, cookie } {} events).reopened = false) := by
  obtain ⟨roster, stage⟩ := (Attended.fresh url cookie).run events
  generalize run { url, cookie } events = h at started roster stage ⊢
  generalize attendance { url, cookie } {} events = r at nobody roster stage ⊢
  have left : ∀ e ∈ h.attached, (h.channel e.2).state = .closed := by
    intro e member
    by_contra open_
    have used := roster.used e member open_
    rw [nobody] at used
    cases used
  cases stage with
  | unstarted phase => exact absurd phase started
  -- Nobody is left, so a channel that is still listed is closed: the server has expelled it.
  | active live state accepting somebody =>
    obtain ⟨e, member⟩ := List.exists_mem_of_ne_nil _ somebody
    have stale : e.1 ∈ r.expelled := (roster.expelled e.1).mpr ⟨e, member, rfl, left e member⟩
    refine ⟨fun both => absurd both.1 (ne_closed_of_used state), ?_⟩
    rintro (reached | ⟨none_expelled, _⟩)
    · exact absurd reached live.ne_ended
    · rw [none_expelled] at stale
      cases stale
  -- Whoever is listed by now came too late and was refused, which does not count as closed.
  | shut live state accepting told refused ended reopened =>
    refine ⟨fun _ => .inr ⟨?_, ended, reopened⟩, fun _ => ⟨state, .inl told⟩⟩
    refine List.eq_nil_iff_forall_not_mem.mpr fun wire stale => ?_
    obtain ⟨e, member, _, closed⟩ := (roster.expelled wire).mp stale
    rw [refused e member] at closed
    cases closed
  | adrift live state accepting server =>
    refine ⟨fun both => absurd both.1 (ne_closed_of_used state), ?_⟩
    rintro (reached | ⟨_, ended, reopened⟩)
    · exact absurd reached live.ne_ended
    · rcases server with server | server
      · simp [ended] at server
      · simp [reopened] at server
  | finished phase state => exact ⟨fun _ => .inl phase, fun _ => ⟨state, .inr phase⟩⟩

/-- The root of a connection is connected and then disconnected by the client. -/
theorem shutdown_iff_disconnected :
    let url : Url := { scheme := "ws", host := some (.domain "localhost"), path := .segments [""] }
    let h := run { url }
      [.create "", .connect 0, .accepted,
        .receive (.opened { sid := "s", pingInterval := 25000, pingTimeout := 5000 }),
        .receive (.message (.connect "/")), .disconnect 0]
    h.state = .closed ∧ (.shutdown ∈ h.queue ∨ h.phase = .ended) := by
  intro url h
  exact (shutdown_iff url none _ (by decide +kernel) (by decide +kernel)).mpr
    (.inr (by decide +kernel))

/-- The root of a connection is disconnected by the server, and then the client disconnects it as
well: nobody has told the hub to shut down. -/
theorem not_shutdown_of_expelled :
    let url : Url := { scheme := "ws", host := some (.domain "localhost"), path := .segments [""] }
    let events : List HubEvent :=
      [.create "", .connect 0, .accepted,
        .receive (.opened { sid := "s", pingInterval := 25000, pingTimeout := 5000 }),
        .receive (.message (.connect "/")), .receive (.message (.disconnect "/")), .disconnect 0]
    let h := run { url } events
    h.phase ≠ .unstarted ∧ (attendance { url } {} events).users = [] ∧ h.state = .opened ∧
      h.queue.length = 0 ∧ ¬ (h.state = .closed ∧ (.shutdown ∈ h.queue ∨ h.phase = .ended)) := by
  intro url events h
  have opened : h.state = .opened := by decide +kernel
  refine ⟨by decide +kernel, by decide +kernel, opened, by decide +kernel, fun both => ?_⟩
  rw [opened] at both
  exact nomatch both.1

end LiveSession.Hub
