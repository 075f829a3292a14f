import LiveSession.Proofs.Connection.Emits
import LiveSession.Proofs.Connection.Reuse
import LiveSession.Proofs.Connection.Shutdown

/-!
# Who learns that a connection has ended

When the loop of a connection ends, the hub tells the channels that are attached, one for each
namespace. A channel whose place another one has taken since is not among them: it stays as it is.
`Seats` has the channel that attached last under each namespace, as the events tell it, and
`farewell_iff` says of every run that these channels, and no others, learn of the end.
-/

namespace LiveSession

namespace HubChannel

variable {c c' : HubChannel}

/-- A channel that somebody holds, and that connects or is connected. -/
def IsUp (c : HubChannel) : Prop :=
  c.dropped = false ∧ (c.state = .connecting ∨ c.state = .connected)

instance : Decidable c.IsUp := inferInstanceAs (Decidable (_ ∧ _))

/-- A channel has learned that its connection is gone: it says so once. -/
inductive Parted (c c' : HubChannel) : Prop
  | disconnected (was : c.state = .connected) (closed : c'.state = .closed)
      (told : ∃ reason, c'.dispatched =
        c.dispatched ++ [(disconnectEvent, [.str reason], c.listeners.count disconnectEvent)])
  | failed (was : c.state = .connecting) (errored : c'.state = .errored)
      (told : ∃ reason, c'.dispatched =
        c.dispatched ++ [(connectErrorEvent, [.str reason], c.listeners.count connectErrorEvent)])

theorem not_isUp_of_state (down : c.state = .closed ∨ c.state = .errored ∨ c.state = .idle) :
    ¬ c.IsUp := by
  rintro ⟨_, up⟩
  rcases down with state | state | state <;> simp [state] at up

theorem Parted.not_isUp (parted : Parted c c') : ¬ c'.IsUp := by
  cases parted with
  | disconnected _ closed _ => exact not_isUp_of_state (.inl closed)
  | failed _ errored _ => exact not_isUp_of_state (.inr (.inl errored))

end HubChannel

/-- The channel that attached last, by namespace on the wire. -/
abbrev Seats := Entries ChannelId

namespace Hub

/-- A channel that attaches takes the seat of its namespace; nobody gives one up. -/
def seat (h : Hub) (seats : Seats) : HubEvent → Seats
  | .connect id => if h.joins id then seats.set (h.channel id).wire id else seats
  | _ => seats

def seating (h : Hub) (seats : Seats) : List HubEvent → Seats
  | [] => seats
  | event :: events => (h.step event).seating (h.seat seats event) events

/-- The loop may end in this way now: only the handshake fails, and only once it has succeeded does
the socket end. -/
def Ends (h : Hub) (failure : Option String) : Prop :=
  h.phase = .handshake ∧ failure.isSome = true ∨ h.phase = .running ∧ failure = none

variable {h h' h'' : Hub} {id : ChannelId} {event : HubEvent} {seats : Seats} {r : Attendance}

theorem lt_of_isUp (up : (h.channel id).IsUp) : id < h.channels.length := by
  by_contra above
  have nobody : h.channel id = default := by
    unfold channel
    rw [List.getElem?_eq_none (Nat.le_of_not_lt above)]
    rfl
  rw [nobody] at up
  exact HubChannel.not_isUp_of_state (.inr (.inr rfl)) up

/-! ### Channels that are up -/

/-- No channel comes up. -/
def Sinks (h h' : Hub) : Prop :=
  ∀ id, (h'.channel id).IsUp → (h.channel id).IsUp ∧ (h'.channel id).state = (h.channel id).state

theorem Sinks.refl (h : Hub) : Sinks h h := fun _ up => ⟨up, rfl⟩

theorem Sinks.trans (s₁ : Sinks h h') (s₂ : Sinks h' h'') : Sinks h h'' := fun id up =>
  have middle := s₂ id up
  have first := s₁ id middle.1
  ⟨first.1, middle.2.trans first.2⟩

theorem sinks_of_channels (same : h'.channels = h.channels) : Sinks h h' := fun id up => by
  rw [channel_of_channels same] at up ⊢
  exact ⟨up, rfl⟩

theorem sinks_modify (h : Hub) (id : ChannelId) (f : HubChannel → HubChannel)
    (sinks : ∀ c, (f c).IsUp → c.IsUp ∧ (f c).state = c.state) : Sinks h (h.modify id f) := by
  intro other up
  rw [channel_modify] at up ⊢
  split at up
  · rename_i here
    rw [if_pos here]
    exact sinks _ up
  · rename_i away
    rw [if_neg away]
    exact ⟨up, rfl⟩

theorem sinks_dispatch (h : Hub) (id : ChannelId) (e : String) (args : List Json) :
    Sinks h (h.dispatch id e args) :=
  sinks_modify h id _ fun _ up => ⟨up, rfl⟩

theorem sinks_mark (h : Hub) (id : ChannelId) {state : ChannelState}
    (down : state = .closed ∨ state = .errored) :
    Sinks h (h.modify id fun c => { c with state, buffer := [] }) := by
  refine sinks_modify h id _ fun c up => absurd up (HubChannel.not_isUp_of_state ?_)
  exact down.imp_right .inl

theorem sinks_onConnectError (h : Hub) (id : ChannelId) (message : String) :
    Sinks h (h.onConnectError id message) := by
  unfold onConnectError
  split
  · exact .refl h
  · exact (sinks_mark h id (.inr rfl)).trans (sinks_dispatch _ id _ _)

theorem sinks_onClosed (h : Hub) (id : ChannelId) (reason : String) :
    Sinks h (h.onClosed id reason) := by
  unfold onClosed
  split
  · exact (sinks_mark h id (.inl rfl)).trans (sinks_dispatch _ id _ _)
  · exact (sinks_mark h id (.inr rfl)).trans (sinks_dispatch _ id _ _)
  · exact .refl h

theorem sinks_tell (failure : Option String) (h : Hub) (id : ChannelId) :
    Sinks h (tell failure h id) := by
  unfold tell
  split
  · exact .refl h
  · cases failure with
    | some message => exact sinks_onConnectError h id message
    | none => exact sinks_onClosed h id _

theorem sinks_finish (h : Hub) (failure : Option String) : Sinks h (h.finish failure) := by
  have all (ids : List ChannelId) (h : Hub) : Sinks h (ids.foldl (tell failure) h) := by
    induction ids generalizing h with
    | nil => exact .refl h
    | cons id ids ih => exact (sinks_tell failure h id).trans (ih _)
  rw [finish_eq]
  exact .trans (sinks_of_channels rfl) (all _ _)

theorem sinks_disconnect (h : Hub) (id : ChannelId) : Sinks h (h.disconnect id) := by
  unfold disconnect
  dsimp only
  split
  · exact .refl h
  · have marked := sinks_mark h id (.inl rfl)
    split
    · refine (marked.trans (sinks_of_channels ?_)).trans (sinks_dispatch _ id _ _)
      exact (channels_detach _ id).trans (channels_enqueue _ _)
    · exact marked.trans (sinks_of_channels (channels_detach _ id))

theorem sinks_drop (h : Hub) (id : ChannelId) : Sinks h (h.drop id) := by
  have dropped : Sinks h (h.modify id fun c => { c with dropped := true }) :=
    sinks_modify h id _ fun _ up => nomatch up.1
  unfold drop
  split
  · exact .refl h
  · dsimp only
    split
    · exact dropped
    · exact dropped.trans (sinks_of_channels (channels_detach _ id))

theorem sinks_create (h : Hub) (ns : String) : Sinks h (h.create ns) := by
  intro id up
  have below : id < h.channels.length + 1 := by
    have below := lt_of_isUp up
    rwa [create, List.length_append] at below
  rcases Nat.lt_succ_iff_lt_or_eq.mp below with before | rfl
  · have same : (h.create ns).channel id = h.channel id := by
      unfold channel create
      rw [List.getElem?_append_left before]
    rw [same] at up ⊢
    exact ⟨up, rfl⟩
  · have new : (h.create ns).channel h.channels.length = { ns } := by
      unfold channel create
      rw [List.getElem?_concat_length]
      rfl
    rw [new] at up
    exact absurd up (HubChannel.not_isUp_of_state (.inr (.inr rfl)))

theorem sinks_emit {args : List Json} (emitted : h.emit id args = .ok h') : Sinks h h' := by
  rcases emit_cases emitted with ⟨_, channels, _⟩ | ⟨_, _, kept⟩
  · exact sinks_of_channels channels
  · rw [kept]
    exact sinks_modify h id _ fun _ up => ⟨up, rfl⟩

theorem isUp_of_onConnected {other : ChannelId} (up : ((h.onConnected id).channel other).IsUp) :
    (h.channel other).IsUp := by
  unfold onConnected at up
  dsimp only at up
  split at up
  · exact up
  · rename_i waits
    have calm := (sinks_dispatch _ id connectEvent []) other up
    have sent := sinks_of_channels (channels_sendEvents id (h.channel id).buffer _) other calm.1
    have before := sent.1
    rw [channel_modify] at before
    split at before
    · rename_i here
      refine ⟨before.1, .inl ?_⟩
      rw [← here.1]
      exact Decidable.not_not.mp waits
    · exact before

theorem isUp_of_receive {frame : EnginePacket} (up : ((h.receive frame).1.channel id).IsUp) :
    (h.channel id).IsUp := by
  cases frame with
  | opened info => exact (sinks_of_channels (channels_sendFrames _ _ _) id up).1
  | close => exact (sinks_of_channels (channels_enqueue h _) id up).1
  | message p =>
    have noted : Sinks h (h.note p) := sinks_of_channels (channels_note h p)
    show (h.channel id).IsUp
    change ((h.receivePacket p).channel id).IsUp at up
    cases addressed : (h.note p).addressee? p.ns with
    | none =>
      rw [receivePacket_of_nobody addressed] at up
      exact (noted id up).1
    | some other =>
      rw [receivePacket_of_addressee addressed] at up
      refine (noted id ?_).1
      unfold hand at up
      split at up
      · exact isUp_of_onConnected up
      · exact (sinks_onClosed _ _ _ id up).1
      · exact (sinks_onConnectError _ _ _ id up).1
      · split at up
        · unfold onEvent at up
          split at up
          · exact (sinks_dispatch _ _ _ _ id up).1
          · exact up
        · exact up
      · exact up
  | ping | pong | upgrade | noop => exact up

/-! ### Channels that come and go -/

/-- A channel leaves: it is down, and it has given up the place of its namespace if it had it. -/
structure Leaves (id : ChannelId) (h h' : Hub) : Prop where
  down : ¬ (h'.channel id).IsUp
  phase : h'.phase = h.phase
  opened : h'.state = .opened → h.state = .opened
  attached : h'.attached = h.attached ∨
    h.attached.find? (h.channel id).wire = some id ∧
      h'.attached = h.attached.erase (h.channel id).wire

theorem leaves_detach (below : id < h.channels.length) (keeps : Keeps h h')
    (down : ¬ (h'.channel id).IsUp) : Leaves id h (h'.detach id) := by
  have wire : (h'.channel id).wire = (h.channel id).wire := keeps.wires id below
  have still : ¬ ((h'.detach id).channel id).IsUp := by
    rw [channel_of_channels (channels_detach h' id)]
    exact down
  have cases_ := h'.detach_cases id
  rw [wire, keeps.attached] at cases_
  rcases cases_ with ⟨_, after⟩ | ⟨attached, _, nobody, after⟩ | ⟨attached, _, after⟩
  · rw [after]
    exact ⟨down, keeps.phase, fun opened => keeps.state.symm.trans opened, .inl keeps.attached⟩
  · refine ⟨still, ?_, ?_, .inr ⟨attached, ?_⟩⟩
    · rw [after]
      exact keeps.phase
    · rw [after]
      exact nofun
    · rw [after, nobody]
  · refine ⟨still, ?_, ?_, .inr ⟨attached, ?_⟩⟩
    · rw [after]
      exact keeps.phase
    · rw [after]
      exact fun opened => keeps.state.symm.trans opened
    · rw [after]

theorem leaves_disconnect (below : id < h.channels.length) : Leaves id h (h.disconnect id) := by
  unfold disconnect
  dsimp only
  split
  · rename_i closed
    exact ⟨HubChannel.not_isUp_of_state (.inl closed), rfl, fun opened => opened, .inl rfl⟩
  · let h₁ := h.modify id fun c => { c with state := .closed, buffer := [] }
    have turned : Turns id (fun _ => .closed) h h₁ := turns_modify below _ (fun _ => rfl) rfl
    have down : ¬ (h₁.channel id).IsUp := HubChannel.not_isUp_of_state (.inl turned.turned)
    split
    · have sent := calm_enqueue h₁ (.send (.message (.disconnect (h.channel id).wire)))
      have left := leaves_detach below (turned.toKeeps.trans sent.toKeeps) <| by
        rw [channel_of_channels (channels_enqueue h₁ _)]
        exact down
      exact ⟨fun up => left.down (sinks_dispatch _ id _ _ id up).1, left.phase, left.opened,
        left.attached⟩
    · exact leaves_detach below turned.toKeeps down

theorem leaves_drop (held : h.isHeld id = true) : Leaves id h (h.drop id) := by
  have below := Attended.lt_of_isHeld held
  have present := Attended.dropped_of_isHeld held
  let h₁ := h.modify id fun c => { c with dropped := true }
  have calm : Calm h h₁ := calm_modify h id _ (fun _ => rfl) fun _ => rfl
  have down : ¬ (h₁.channel id).IsUp := by
    rw [channel_modify_self below]
    exact fun up => nomatch up.1
  unfold drop
  rw [if_neg (Bool.eq_false_iff.mp present)]
  show Leaves id h (if (h₁.channel id).state = .closed then h₁ else h₁.detach id)
  split
  · exact ⟨down, rfl, fun opened => opened, .inl rfl⟩
  · exact leaves_detach below calm.toKeeps down

theorem joins_iff : h.joins id = true ↔
    h.isHeld id = true ∧ (h.channel id).state ≠ .connecting ∧ (h.channel id).state ≠ .connected := by
  simp [joins, and_assoc]

theorem joined_of_joins (joins : h.joins id = true) : Joins id h (h.connect id) :=
  have ⟨held, closed⟩ := joins_iff.mp joins
  joins_connect (Attended.lt_of_isHeld held) closed

theorem step_connect_joins (joins : h.joins id = true) : h.step (.connect id) = h.connect id :=
  if_pos (joins_iff.mp joins).1

theorem step_connect_stays (stays : h.joins id = false) : h.step (.connect id) = h := by
  show (if h.isHeld id then h.connect id else h) = h
  split
  · rename_i held
    unfold connect
    cases state : (h.channel id).state with
    | connecting | connected => rfl
    | _ => simp [joins, held, state] at stays
  · rfl

/-- A channel that joins a hub which is not open yet waits. -/
theorem state_connect_waits (joins : h.joins id = true)
    (early : h.state = .idle ∨ h.state = .connecting) :
    ((h.connect id).channel id).state = .connecting := by
  obtain ⟨held, closed⟩ := joins_iff.mp joins
  let h₁ := h.modify id fun c => { c with state := .connecting }
  have marked : h₁.channel id = { h.channel id with state := .connecting } :=
    channel_modify_self (Attended.lt_of_isHeld held) _
  have connects : h.connect id = h₁.attach id := connect_attaches closed
  have channels : (h₁.attach id).channels = h₁.channels := by
    rcases early with idle | waits
    · rw [attach_idle (h := h₁) idle]
      rfl
    · rw [attach_connecting (h := h₁) waits]
      rfl
  rw [connects, channel_of_channels channels, marked]

/-! ### Events -/

/-- A channel that is up after an event was up before, or it has joined. -/
theorem isUp_step (up : ((h.step event).channel id).IsUp) :
    ((h.channel id).IsUp ∧
        (((h.step event).channel id).state = (h.channel id).state ∨ h.phase = .running)) ∨
      event = .connect id ∧ h.joins id = true := by
  have sunk (sinks : Sinks h (h.step event)) :
      ((h.channel id).IsUp ∧
          (((h.step event).channel id).state = (h.channel id).state ∨ h.phase = .running)) ∨
        event = .connect id ∧ h.joins id = true :=
    .inl ⟨(sinks id up).1, .inl (sinks id up).2⟩
  have guarded {p : Prop} [Decidable p] {h' : Hub} (sinks : Sinks h h') :
      Sinks h (if p then h' else h) := by
    split
    · exact sinks
    · exact .refl h
  cases event with
  | create ns => exact sunk (sinks_create h ns)
  | listen other e | unlisten other e number =>
    exact sunk (guarded (sinks_modify h other _ fun _ up => ⟨up, rfl⟩))
  | disconnect other => exact sunk (guarded (sinks_disconnect h other))
  | drop other => exact sunk (guarded (sinks_drop h other))
  | finish failure => exact sunk (guarded (sinks_finish h failure))
  | accepted => exact sunk (guarded (sinks_of_channels rfl))
  | emit other args =>
    refine sunk (guarded ?_)
    split
    · rename_i emitted
      exact sinks_emit emitted
    · exact .refl h
  | connect other =>
    cases joins : h.joins other with
    | false =>
      rw [step_connect_stays joins] at up ⊢
      exact .inl ⟨up, .inl rfl⟩
    | true =>
      by_cases same : id = other
      · subst same
        exact .inr ⟨rfl, joins⟩
      · have still := (only_connect h other).others id same
        rw [step_connect_joins joins, still] at up ⊢
        exact .inl ⟨up, .inl rfl⟩
  | receive frame =>
    by_cases running : h.phase = .running
    · have received : h.step (.receive frame) = (h.receive frame).1 := if_pos running
      rw [received] at up
      exact .inl ⟨isUp_of_receive up, .inr running⟩
    · have same : h.step (.receive frame) = h := if_neg running
      rw [same] at up ⊢
      exact .inl ⟨up, .inl rfl⟩

theorem wire_step (below : id < h.channels.length) (event : HubEvent) :
    ((h.step event).channel id).wire = (h.channel id).wire :=
  (wire_move below (.event event)).2

theorem wire_of_isUp (up : ((h.step event).channel id).IsUp) :
    ((h.step event).channel id).wire = (h.channel id).wire := by
  refine wire_step ?_ event
  rcases isUp_step up with ⟨was, _⟩ | ⟨_, joins⟩
  · exact lt_of_isUp was
  · exact Attended.lt_of_isHeld (joins_iff.mp joins).1

theorem keeps_hand (below : id < h.channels.length) (p : SocketPacket) : Keeps h (h.hand id p) := by
  unfold hand
  split
  · exact (turns_onConnected below).toKeeps
  · exact (turns_onClosed below _).toKeeps
  · exact (turns_onConnectError below _).toKeeps
  · split
    · exact (calm_onEvent h id _ _).toKeeps
    · exact .refl h
  · exact .refl h

theorem keeps_receivePacket (roster : Roster h r) (p : SocketPacket) :
    Keeps h (h.receivePacket p) := by
  have noted := calm_note h p
  cases addressed : (h.note p).addressee? p.ns with
  | none =>
    rw [receivePacket_of_nobody addressed]
    exact noted.toKeeps
  | some id =>
    rw [receivePacket_of_addressee addressed]
    have attached := (Option.filter_eq_some_iff.mp addressed).1
    rw [noted.attached] at attached
    have below := roster.below _ (Entries.mem_of_find? attached)
    exact noted.toKeeps.trans (keeps_hand (Nat.lt_of_lt_of_le below noted.count) p)

theorem receive_attached (a : Attended h r) (frame : EnginePacket) :
    (h.receive frame).1.attached = h.attached ∧ (h.receive frame).1.phase = h.phase := by
  cases frame with
  | opened info =>
    have sent := calm_sendFrames (fun wire => .message (.connect wire))
      ({ h with state := .opened } : Hub).namespaces { h with state := .opened }
    exact ⟨sent.attached, sent.phase⟩
  | close =>
    have sent := calm_enqueue h .shutdown
    exact ⟨sent.attached, sent.phase⟩
  | message p =>
    have keeps := keeps_receivePacket a.roster p
    exact ⟨keeps.attached, keeps.phase⟩
  | ping | pong | upgrade | noop => exact ⟨rfl, rfl⟩

/-! ### Before the handshake has succeeded -/

def IsEarly (h : Hub) : Prop :=
  h.phase = .unstarted ∨ h.phase = .handshake

theorem IsEarly.ne_running (early : h.IsEarly) : h.phase ≠ .running := by
  rcases early with phase | phase <;> simp [phase]

theorem IsEarly.ne_ended (early : h.IsEarly) : h.phase ≠ .ended := by
  rcases early with phase | phase <;> simp [phase]

/-- The loop goes on: not back to the handshake, and not on from its end. The hub is not opened before
the handshake has succeeded. -/
structure Onward (h h' : Hub) : Prop where
  early : h'.IsEarly → h.IsEarly
  opened : h'.IsEarly → h'.state = .opened → h.state = .opened
  ended : h.phase = .ended → h'.phase = .ended

theorem Onward.refl (h : Hub) : Onward h h :=
  ⟨fun early => early, fun _ opened => opened, fun ended => ended⟩

theorem onward_of_phase (phase : h'.phase = h.phase)
    (opened : h'.state = .opened → h.state = .opened) : Onward h h' where
  early := fun early => by rwa [IsEarly, phase] at early
  opened := fun _ => opened
  ended := fun ended => phase.trans ended

theorem Keeps.onward (keeps : Keeps h h') : Onward h h' :=
  onward_of_phase keeps.phase fun opened => keeps.state.symm.trans opened

theorem onward_of_late (late : ¬ h'.IsEarly) (ended : h.phase = .ended → h'.phase = .ended) :
    Onward h h' :=
  ⟨fun early => absurd early late, fun early => absurd early late, ended⟩

theorem Onward.guarded {p : Prop} [Decidable p] (onward : p → Onward h h') :
    Onward h (if p then h' else h) := by
  split
  · rename_i holds
    exact onward holds
  · exact .refl h

theorem onward_connect (a : Attended h r) (id : ChannelId) : Onward h (h.step (.connect id)) := by
  cases joins : h.joins id with
  | false =>
    rw [step_connect_stays joins]
    exact .refl h
  | true =>
    rw [step_connect_joins joins]
    have joined := joined_of_joins joins
    by_cases idle : h.state = .idle
    · have unstarted : h.phase = .unstarted := by
        cases a.stage with
        | unstarted phase => exact phase
        | active _ state | adrift _ state => exact absurd idle (ne_idle_of_used state)
        | shut _ state | finished _ state => simp [idle] at state
      refine ⟨fun _ => .inl unstarted, fun _ opened => ?_, fun ended => ?_⟩
      · rw [(joined.first idle).1] at opened
        cases opened
      · rw [unstarted] at ended
        cases ended
    · obtain ⟨state, phase, _⟩ := joined.later idle
      exact onward_of_phase phase fun opened => state.symm.trans opened

theorem onward_step (a : Attended h r) (event : HubEvent) : Onward h (h.step event) := by
  cases event with
  | create ns => exact (calm_create h ns).onward
  | listen id e => exact .guarded fun _ => (calm_listen h id e).onward
  | unlisten id e number => exact .guarded fun _ => (calm_unlisten h id e number).onward
  | connect id => exact onward_connect a id
  | disconnect id =>
    refine .guarded fun held => ?_
    have left := leaves_disconnect (Attended.lt_of_isHeld held)
    exact onward_of_phase left.phase left.opened
  | drop id =>
    refine .guarded fun held => ?_
    have left := leaves_drop held
    exact onward_of_phase left.phase left.opened
  | emit id args =>
    refine .guarded fun _ => ?_
    split
    · rename_i emitted
      exact (calm_emit emitted).onward
    · exact .refl h
  | accepted =>
    refine .guarded fun handshake => onward_of_late ?_ fun ended => ?_
    · exact fun early => early.ne_running rfl
    · rw [handshake] at ended
      cases ended
  | receive frame =>
    refine .guarded fun running => ?_
    have phase := (receive_attached a frame).2
    refine onward_of_late ?_ fun ended => phase.trans ended
    exact fun early => early.ne_running (phase.trans running)
  | finish failure =>
    refine .guarded fun _ => ?_
    have ended := (a.keeps_finish failure).phase
    exact onward_of_late (fun early => early.ne_ended ended) fun _ => ended

/-- Until the handshake has succeeded, the hub is not open and nobody is connected. -/
def Unopened (h : Hub) : Prop :=
  h.IsEarly → h.state ≠ .opened ∧ ∀ id, (h.channel id).IsUp → (h.channel id).state = .connecting

theorem Unopened.step (unopened : Unopened h) (a : Attended h r) (event : HubEvent) :
    Unopened (h.step event) := by
  intro early
  have onward := onward_step a event
  have before := onward.early early
  obtain ⟨shut, waits⟩ := unopened before
  refine ⟨fun now => shut (onward.opened early now), fun id up => ?_⟩
  rcases isUp_step up with ⟨was, same | running⟩ | ⟨rfl, joins⟩
  · exact same.trans (waits id was)
  · exact absurd running before.ne_running
  · rw [step_connect_joins joins] at up ⊢
    have joined := joined_of_joins joins
    cases state : h.state with
    | idle => exact state_connect_waits joins (.inl state)
    | connecting => exact state_connect_waits joins (.inr state)
    | opened => exact absurd state shut
    | closed =>
      have errored := joined.refused state
      exact absurd up (HubChannel.not_isUp_of_state (.inr (.inl errored)))

/-! ### Seats -/

theorem attached_guarded {p : Prop} [Decidable p] (same : p → h'.attached = h.attached) :
    (if p then h' else h).attached = h.attached := by
  split
  · rename_i holds
    exact same holds
  · rfl

/-- Whoever is attached has the seat of its namespace, and until the loop has ended, a channel that is
up and has its seat is attached. -/
structure Seated (h : Hub) (seats : Seats) : Prop where
  newest : ∀ {wire id}, h.attached.find? wire = some id → seats.find? wire = some id
  kept : h.phase ≠ .ended → ∀ id, (h.channel id).IsUp →
    seats.find? (h.channel id).wire = some id → h.attached.find? (h.channel id).wire = some id

namespace Seated

theorem of_attached (seated : Seated h seats) (onward : Onward h h')
    (up : ∀ id, (h'.channel id).IsUp →
      (h.channel id).IsUp ∧ (h'.channel id).wire = (h.channel id).wire)
    (newest : ∀ {wire id}, h'.attached.find? wire = some id → h.attached.find? wire = some id)
    (kept : ∀ id, (h'.channel id).IsUp → h.attached.find? (h.channel id).wire = some id →
      h'.attached.find? (h.channel id).wire = some id) : Seated h' seats where
  newest := fun found => seated.newest (newest found)
  kept := fun going id now seat => by
    obtain ⟨before, wire⟩ := up id now
    rw [wire] at seat ⊢
    exact kept id now (seated.kept (fun ended => going (onward.ended ended)) id before seat)

theorem stay (seated : Seated h seats) (onward : Onward h h')
    (up : ∀ id, (h'.channel id).IsUp →
      (h.channel id).IsUp ∧ (h'.channel id).wire = (h.channel id).wire)
    (attached : h'.attached = h.attached) : Seated h' seats := by
  refine seated.of_attached onward up (fun found => ?_) fun other _ found => ?_
  · rwa [attached] at found
  · rwa [attached]

theorem leave (seated : Seated h seats) (onward : Onward h h')
    (up : ∀ id, (h'.channel id).IsUp →
      (h.channel id).IsUp ∧ (h'.channel id).wire = (h.channel id).wire)
    (leaves : Leaves id h h') : Seated h' seats := by
  rcases leaves.attached with same | ⟨attached, erased⟩
  · exact seated.stay onward up same
  · refine seated.of_attached onward up (fun {wire other} found => ?_) fun other now found => ?_
    · rw [erased] at found
      by_cases same : wire = (h.channel id).wire
      · rw [same, Entries.find?_erase_self] at found
        cases found
      · rwa [Entries.find?_erase_other _ same] at found
    · rw [erased]
      have different : (h.channel other).wire ≠ (h.channel id).wire := by
        intro same
        rw [same, attached] at found
        cases found
        exact leaves.down now
      rwa [Entries.find?_erase_other _ different]

theorem join (seated : Seated h seats) (onward : Onward h h')
    (up : ∀ other, (h'.channel other).IsUp → other ≠ id → (h.channel other).IsUp)
    (wires : ∀ other, (h'.channel other).IsUp → (h'.channel other).wire = (h.channel other).wire)
    (attached : h'.attached = h.attached.set (h.channel id).wire id) :
    Seated h' (seats.set (h.channel id).wire id) where
  newest := fun {wire other} found => by
    rw [attached] at found
    by_cases same : wire = (h.channel id).wire
    · rw [same, Entries.find?_set_self] at found ⊢
      exact found
    · rw [Entries.find?_set_other _ _ same] at found ⊢
      exact seated.newest found
  kept := fun going other now seat => by
    rw [wires other now] at seat ⊢
    rw [attached]
    by_cases same : (h.channel other).wire = (h.channel id).wire
    · rw [same, Entries.find?_set_self] at seat ⊢
      exact seat
    · have different : other ≠ id := by
        rintro rfl
        exact same rfl
      rw [Entries.find?_set_other _ _ same] at seat ⊢
      exact seated.kept (fun ended => going (onward.ended ended)) other (up other now different) seat

theorem leave_guarded (seated : Seated h seats)
    (onward : Onward h (if h.isHeld id = true then h' else h))
    (up : ∀ other, ((if h.isHeld id = true then h' else h).channel other).IsUp →
      (h.channel other).IsUp ∧
        ((if h.isHeld id = true then h' else h).channel other).wire = (h.channel other).wire)
    (leaves : h.isHeld id = true → Leaves id h h') :
    Seated (if h.isHeld id = true then h' else h) seats := by
  by_cases held : h.isHeld id = true
  · rw [if_pos held] at onward up ⊢
    exact seated.leave onward up (leaves held)
  · rw [if_neg held]
    exact seated

theorem connect (seated : Seated h seats) (a : Attended h r) (id : ChannelId) :
    Seated (h.step (.connect id)) (h.seat seats (.connect id)) := by
  cases joins : h.joins id with
  | true =>
    have joined := (joined_of_joins joins).attached
    rw [← step_connect_joins joins] at joined
    rw [seat, if_pos joins]
    refine seated.join (onward_step a _) (fun other now different => ?_)
      (fun _ now => wire_of_isUp now) joined
    rcases isUp_step now with ⟨was, _⟩ | ⟨same, _⟩
    · exact was
    · cases same
      exact absurd rfl different
  | false =>
    rw [step_connect_stays joins, seat, if_neg (Bool.eq_false_iff.mp joins)]
    exact seated

theorem step (seated : Seated h seats) (a : Attended h r) (event : HubEvent) :
    Seated (h.step event) (h.seat seats event) := by
  have onward := onward_step a event
  have up (other : ∀ id, event ≠ .connect id) (id : ChannelId)
      (now : ((h.step event).channel id).IsUp) :
      (h.channel id).IsUp ∧ ((h.step event).channel id).wire = (h.channel id).wire := by
    refine ⟨?_, wire_of_isUp now⟩
    rcases isUp_step now with ⟨was, _⟩ | ⟨same, _⟩
    · exact was
    · exact absurd same (other id)
  cases event with
  | connect id => exact seated.connect a id
  | disconnect id =>
    exact seated.leave_guarded onward (up nofun) fun held =>
      leaves_disconnect (Attended.lt_of_isHeld held)
  | drop id => exact seated.leave_guarded onward (up nofun) leaves_drop
  | finish failure =>
    by_cases going : h.phase = .handshake ∨ h.phase = .running
    · have stepped : h.step (.finish failure) = h.finish failure := if_pos going
      have keeps := a.keeps_finish failure
      rw [stepped]
      refine ⟨fun found => ?_, fun on => absurd keeps.phase on⟩
      rw [keeps.attached] at found
      cases found
    · have same : h.step (.finish failure) = h := if_neg going
      exact seated.stay onward (up nofun) (by rw [same])
  | create ns => exact seated.stay onward (up nofun) rfl
  | listen id e | unlisten id e number =>
    exact seated.stay onward (up nofun) (attached_guarded fun _ => rfl)
  | accepted => exact seated.stay onward (up nofun) (attached_guarded fun _ => rfl)
  | receive frame =>
    exact seated.stay onward (up nofun) (attached_guarded fun _ => (receive_attached a frame).1)
  | emit id args =>
    refine seated.stay onward (up nofun) (attached_guarded fun _ => ?_)
    split
    · rename_i emitted
      exact (calm_emit emitted).attached
    · rfl

end Seated

/-! ### The end of the loop -/

/-- A channel that is up and is told parts, provided that a failed handshake finds nobody connected. -/
theorem parted_tell {failure : Option String} (up : (h.channel id).IsUp)
    (fits : failure = none ∨ (h.channel id).state = .connecting) :
    (h.channel id).Parted ((tell failure h id).channel id) := by
  have below := lt_of_isUp up
  obtain ⟨held, state⟩ := up
  unfold tell
  rw [held, if_neg Bool.false_ne_true]
  cases failure with
  | some message =>
    have connecting := fits.resolve_left nofun
    show (h.channel id).Parted ((h.onConnectError id message).channel id)
    unfold onConnectError Hub.dispatch
    rw [connecting, if_neg nofun, channel_modify_twice below]
    exact .failed connecting rfl ⟨_, rfl⟩
  | none =>
    show (h.channel id).Parted ((h.onClosed id _).channel id)
    unfold onClosed Hub.dispatch
    rcases state with connecting | connected
    · rw [connecting]
      dsimp only
      rw [channel_modify_twice below]
      exact .failed connecting rfl ⟨_, rfl⟩
    · rw [connected]
      dsimp only
      rw [channel_modify_twice below]
      exact .disconnected connected rfl ⟨_, rfl⟩

theorem channel_tellAll (failure : Option String) {ids : List ChannelId} (absent : id ∉ ids)
    (h : Hub) : (ids.foldl (tell failure) h).channel id = h.channel id := by
  induction ids generalizing h with
  | nil => rfl
  | cons other ids ih =>
    obtain ⟨different, absent⟩ := not_or.mp (mt List.mem_cons.mpr absent)
    exact (ih absent _).trans ((only_tell failure h other).others id different)

theorem parted_tellAll {failure : Option String} {ids : List ChannelId} (distinct : ids.Nodup)
    (member : id ∈ ids) (up : (h.channel id).IsUp)
    (fits : failure = none ∨ (h.channel id).state = .connecting) :
    (h.channel id).Parted ((ids.foldl (tell failure) h).channel id) := by
  induction ids generalizing h with
  | nil => cases member
  | cons other ids ih =>
    obtain ⟨absent, distinct⟩ := List.nodup_cons.mp distinct
    show (h.channel id).Parted ((ids.foldl (tell failure) (tell failure h other)).channel id)
    by_cases same : id = other
    · subst same
      rw [channel_tellAll failure absent]
      exact parted_tell up fits
    · have still := (only_tell failure h other).others id same
      have told := ih (h := tell failure h other) distinct
        ((List.mem_cons.mp member).resolve_left same) (by rwa [still]) (by rwa [still])
      rwa [still] at told

theorem Roster.ids_nodup (roster : Roster h r) : (h.attached.map Prod.snd).Nodup := by
  refine List.Nodup.map_on (fun e member e' member' same => Prod.ext ?_ same) ?_
  · rw [← roster.own e member, ← roster.own e' member', same]
  · exact roster.names.of_map

theorem Ends.step {failure : Option String} (ends : h.Ends failure) :
    h.step (.finish failure) = h.finish failure :=
  if_pos (ends.imp And.left And.left)

theorem finish_reaches {failure : Option String} (a : Attended h r) (unopened : Unopened h)
    (seated : Seated h seats) (ends : h.Ends failure) (up : (h.channel id).IsUp)
    (seat : seats.find? (h.channel id).wire = some id) :
    (h.channel id).Parted ((h.finish failure).channel id) := by
  have going : h.phase ≠ .ended := by
    rcases ends with ⟨phase, _⟩ | ⟨phase, _⟩ <;> simp [phase]
  have attached := Entries.mem_of_find? (seated.kept going id up seat)
  have fits : failure = none ∨ (h.channel id).state = .connecting := by
    rcases ends with ⟨handshake, _⟩ | ⟨_, none⟩
    · exact .inr ((unopened (.inr handshake)).2 id up)
    · exact .inl none
  rw [finish_eq]
  exact parted_tellAll (h := h.closing) a.roster.ids_nodup (List.mem_map_of_mem attached) up fits

theorem finish_misses (failure : Option String) (a : Attended h r) (seated : Seated h seats)
    (lost : seats.find? (h.channel id).wire ≠ some id) :
    (h.finish failure).channel id = h.channel id := by
  rw [finish_eq, channel_tellAll failure]
  · rfl
  · intro member
    obtain ⟨e, attached, rfl⟩ := List.mem_map.mp member
    rw [a.roster.own e attached] at lost
    exact lost (seated.newest (a.roster.find? attached))

theorem isUp_of_run_ended (a : Attended h r) (ended : h.phase = .ended) (later : List HubEvent)
    (up : ((h.run later).channel id).IsUp) : (h.channel id).IsUp := by
  induction later generalizing h r with
  | nil => exact up
  | cons event later ih =>
    have up' := ih (a.step event) ((onward_step a event).ended ended) up
    rcases isUp_step up' with ⟨was, _⟩ | ⟨rfl, joins⟩
    · exact was
    · have closed : h.state = .closed := by
        cases a.stage with
        | finished _ state => exact state
        | unstarted phase => simp [ended] at phase
        | active live | shut live | adrift live => exact absurd ended live.ne_ended
      rw [step_connect_joins joins] at up'
      have errored := (joined_of_joins joins).refused closed
      exact absurd up' (HubChannel.not_isUp_of_state (.inr (.inl errored)))

theorem run_seated (url : Url) (cookie : Option String) (events : List HubEvent) :
    Unopened (run { url, cookie } events) ∧
      Seated (run { url, cookie } events) (seating { url, cookie } [] events) := by
  have all (events : List HubEvent) {h : Hub} {r : Attendance} {seats : Seats} (a : Attended h r)
      (unopened : Unopened h) (seated : Seated h seats) :
      Unopened (h.run events) ∧ Seated (h.run events) (h.seating seats events) := by
    induction events generalizing h r seats with
    | nil => exact ⟨unopened, seated⟩
    | cons event events ih => exact ih (a.step event) (unopened.step a event) (seated.step a event)
  refine all events (.fresh url cookie) (fun _ => ⟨nofun, fun id up => ?_⟩) ⟨nofun, fun _ id up => ?_⟩
  · exact absurd (lt_of_isUp up) (Nat.not_lt_zero id)
  · exact absurd (lt_of_isUp up) (Nat.not_lt_zero id)

/-- When the loop of a connection ends, a channel that connects or is connected learns of it, in one
event, if it has attached last under its namespace; otherwise it stays as it is. No other channel
connects or is connected from then on, whatever happens. -/
theorem finish_reaches_seats (url : Url) (cookie : Option String) (events : List HubEvent)
    (failure : Option String) (ends : (run { url, cookie } events).Ends failure) :
    (∀ id, ((run { url, cookie } events).channel id).IsUp →
      ((seating { url, cookie } [] events).find? ((run { url, cookie } events).channel id).wire =
          some id →
        ((run { url, cookie } events).channel id).Parted
          (((run { url, cookie } events).step (.finish failure)).channel id)) ∧
      ((seating { url, cookie } [] events).find? ((run { url, cookie } events).channel id).wire ≠
          some id →
        ((run { url, cookie } events).step (.finish failure)).channel id =
          (run { url, cookie } events).channel id)) ∧
      ∀ later id,
        ((((run { url, cookie } events).step (.finish failure)).run later).channel id).IsUp →
          ((run { url, cookie } events).channel id).IsUp ∧
            (seating { url, cookie } [] events).find?
              ((run { url, cookie } events).channel id).wire ≠ some id := by
  have a := (Attended.fresh url cookie).run events
  obtain ⟨unopened, seated⟩ := run_seated url cookie events
  generalize run { url, cookie } events = h at ends a unopened seated ⊢
  generalize seating { url, cookie } [] events = seats at seated ⊢
  rw [ends.step]
  constructor
  · intro id up
    exact ⟨finish_reaches a unopened seated ends up, finish_misses failure a seated⟩
  · intro later id up
    have after := isUp_of_run_ended (a.finish failure) (a.keeps_finish failure).phase later up
    have before := (sinks_finish h failure id after).1
    refine ⟨before, fun seat => ?_⟩
    exact (finish_reaches a unopened seated ends before seat).not_isUp after

/-- A connection over which a channel of a namespace is connected, and another one of the same
namespace has attached since. -/
def shared : List HubEvent :=
  [.create "/chat", .create "/chat", .connect 0, .accepted,
    .receive (.opened { sid := "s", pingInterval := 25000, pingTimeout := 5000 }),
    .receive (.message (.connect "/chat")), .connect 1]

/-- Both channels are connected, and the socket ends: the second one learns of it. -/
theorem finish_reaches_seats_shared :
    let url : Url := { scheme := "ws", host := some (.domain "localhost"), path := .segments [""] }
    let h := run { url } shared
    h.Ends none ∧ (h.channel 1).IsUp ∧ (h.channel 1).Parted ((h.step (.finish none)).channel 1) := by
  intro url h
  have ends : h.Ends none := .inr ⟨by decide +kernel, rfl⟩
  have up : (h.channel 1).IsUp := by decide +kernel
  have seat : (seating { url } [] shared).find? (h.channel 1).wire = some 1 := by decide +kernel
  obtain ⟨reaches, -⟩ := finish_reaches_seats url none shared none ends
  exact ⟨ends, up, (reaches 1 up).1 seat⟩

/-- The first one does not: it stays connected over a connection that is gone, and dispatches
nothing. -/
theorem not_parted_of_shared :
    let url : Url := { scheme := "ws", host := some (.domain "localhost"), path := .segments [""] }
    let h := run { url } shared
    let h' := h.step (.finish none)
    h.Ends none ∧ h'.phase = .ended ∧ (h.channel 0).IsUp ∧ (h'.channel 0).state = .connected ∧
      (h'.channel 0).dispatched.length = (h.channel 0).dispatched.length ∧
      ¬ (h.channel 0).Parted (h'.channel 0) := by
  intro url h h'
  have ends : h.Ends none := .inr ⟨by decide +kernel, rfl⟩
  have up : (h'.channel 0).IsUp := by decide +kernel
  exact ⟨ends, by decide +kernel, by decide +kernel, by decide +kernel, by decide +kernel,
    fun parted => parted.not_isUp up⟩

end Hub

end LiveSession
