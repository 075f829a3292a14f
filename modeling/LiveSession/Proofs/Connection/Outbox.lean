import LiveSession.Proofs.Channel.Listeners
import LiveSession.Proofs.Connection.Operations

/-!
# What is put into the queue for a channel

The event frames in the queue of a hub come from its channels. A move on a hub is about one channel at
most: `Hub.alone_of_subject` says that the others stay as they are. The outbox of a run lists the
event frames that its moves put into the queue, each with its channel.
-/

namespace LiveSession

def Command.event? : Command → Option (String × List Json)
  | .send (.message { kind := .event, ns, id := none, data := some (.arr args) }) => some (ns, args)
  | _ => none

/-- What may happen on a hub: its events, and what a hub tells a channel, told at any time. -/
inductive HubMove where
  | event (e : HubEvent)
  | connected (id : ChannelId)
  | refused (id : ChannelId) (message : String)
  | closed (id : ChannelId) (reason : String)

/-- A channel in this state keeps what is emitted. -/
def ChannelState.buffers : ChannelState → Bool
  | idle | connecting => true
  | connected | errored | closed => false

namespace Hub

variable {h h' h'' : Hub} {id : ChannelId}

def events (h : Hub) : List (String × List Json) :=
  h.queue.filterMap Command.event?

def move (h : Hub) : HubMove → Hub
  | .event e => h.step e
  | .connected id => if h.isHeld id then h.onConnected id else h
  | .refused id message => if h.isHeld id then h.onConnectError id message else h
  | .closed id reason => if h.isHeld id then h.onClosed id reason else h

def walk (h : Hub) (moves : List HubMove) : Hub :=
  moves.foldl move h

def subject? (h : Hub) : HubMove → Option ChannelId
  | .event (.connect id) | .event (.disconnect id) | .event (.emit id _) => some id
  | .event (.receive (.message p)) => (h.note p).addressee? p.ns
  | .connected id | .refused id _ | .closed id _ => some id
  | .event _ => none

/-- The event frames that a move puts into the queue, each with its channel. -/
def puts (h : Hub) (m : HubMove) : List (ChannelId × String × List Json) :=
  match h.subject? m with
  | some id => ((h.move m).events.drop h.events.length).map fun e => (id, e)
  | none => []

/-- The event frames that a run puts into the queue, each with its channel. -/
def outbox (h : Hub) : List HubMove → List (ChannelId × String × List Json)
  | [] => []
  | m :: moves => h.puts m ++ (h.move m).outbox moves

/-! ### The event frames of an operation -/

theorem events_enqueue (h : Hub) (command : Command) :
    (h.enqueue command).events =
      h.events ++ if h.accepting then command.event?.toList else [] := by
  unfold enqueue events
  split
  · rw [List.filterMap_append]
    cases event : command.event? <;> simp [event]
  · exact (List.append_nil _).symm

theorem events_enqueue_other {command : Command} (other : command.event? = none) :
    (h.enqueue command).events = h.events := by
  rw [events_enqueue, other]
  split <;> exact List.append_nil _

theorem wire_sendEvent (h : Hub) (id other : ChannelId) (args : List Json) :
    ((h.sendEvent id args).channel other).wire = (h.channel other).wire := by
  unfold sendEvent enqueue
  split <;> rfl

theorem channels_enqueue (h : Hub) (command : Command) :
    (h.enqueue command).channels = h.channels := by
  unfold enqueue
  split <;> rfl

theorem channels_sendEvents (id : ChannelId) (events : List (List Json)) (h : Hub) :
    (events.foldl (fun h args => h.sendEvent id args) h).channels = h.channels := by
  induction events generalizing h with
  | nil => rfl
  | cons args events ih => exact (ih _).trans (channels_enqueue h _)

theorem events_sendEvents (id : ChannelId) (events : List (List Json)) (h : Hub) :
    (events.foldl (fun h args => h.sendEvent id args) h).events =
      h.events ++ if h.accepting then events.map fun args => ((h.channel id).wire, args) else [] := by
  induction events generalizing h with
  | nil =>
    split <;> exact (List.append_nil _).symm
  | cons args events ih =>
    have still : (h.sendEvent id args).accepting = h.accepting := (calm_enqueue h _).accepting
    rw [List.foldl_cons, ih, wire_sendEvent, still, sendEvent, events_enqueue, List.append_assoc]
    split <;> rfl

theorem events_shutDown (h : Hub) : h.shutDown.events = h.events :=
  events_enqueue_other rfl

theorem channels_sendFrames (frame : String → EnginePacket) (wires : List String) (h : Hub) :
    (wires.foldl (fun h wire => h.enqueue (.send (frame wire))) h).channels = h.channels := by
  induction wires generalizing h with
  | nil => rfl
  | cons wire wires ih => exact (ih _).trans (channels_enqueue h _)

theorem events_sendFrames (frame : String → EnginePacket) (wires : List String) (h : Hub)
    (other : ∀ wire, (Command.send (frame wire)).event? = none) :
    (wires.foldl (fun h wire => h.enqueue (.send (frame wire))) h).events = h.events := by
  induction wires generalizing h with
  | nil => rfl
  | cons wire wires ih => exact (ih _).trans (events_enqueue_other (other wire))

theorem wire_modify (h : Hub) (id other : ChannelId) (f : HubChannel → HubChannel)
    (ns : ∀ c, (f c).ns = c.ns) : ((h.modify id f).channel other).wire = (h.channel other).wire := by
  rw [channel_modify]
  split
  · exact congrArg wireNamespace (ns _)
  · rfl

theorem events_onConnected (h : Hub) (id : ChannelId) :
    (h.onConnected id).events =
      h.events ++ if (h.channel id).state = .connecting ∧ h.accepting = true then
        (h.channel id).buffer.map fun args => ((h.channel id).wire, args) else [] := by
  unfold onConnected
  dsimp only
  by_cases waits : (h.channel id).state = .connecting
  · rw [if_neg fun different => different waits]
    let h₁ := h.modify id fun c => { c with state := .connected, buffer := [] }
    have wire : (h₁.channel id).wire = (h.channel id).wire := wire_modify h id id _ fun _ => rfl
    have flushed := events_sendEvents id (h.channel id).buffer h₁
    rw [wire] at flushed
    refine Eq.trans flushed ?_
    simp only [waits, true_and]
    rfl
  · rw [if_pos waits, if_neg fun both => waits both.1, List.append_nil]

theorem events_onConnectError (h : Hub) (id : ChannelId) (message : String) :
    (h.onConnectError id message).events = h.events := by
  unfold onConnectError
  split <;> rfl

theorem events_onClosed (h : Hub) (id : ChannelId) (reason : String) :
    (h.onClosed id reason).events = h.events := by
  unfold onClosed
  split <;> rfl

theorem events_onEvent (h : Hub) (id : ChannelId) (event : String) (args : List Json) :
    (h.onEvent id event args).events = h.events := by
  unfold onEvent
  split <;> rfl

theorem events_note (h : Hub) (p : SocketPacket) : (h.note p).events = h.events := by
  obtain ⟨_, noted⟩ := h.note_eq p
  rw [noted]
  rfl

theorem events_detach (h : Hub) (id : ChannelId) : (h.detach id).events = h.events := by
  unfold detach
  dsimp only
  split
  · rfl
  · split
    · exact events_shutDown _
    · rfl

theorem events_disconnect (h : Hub) (id : ChannelId) : (h.disconnect id).events = h.events := by
  unfold disconnect
  dsimp only
  split
  · rfl
  · split
    · exact (events_detach _ id).trans (events_enqueue_other rfl)
    · exact events_detach _ id

theorem events_tellAll (failure : Option String) (ids : List ChannelId) (h : Hub) :
    (ids.foldl (tell failure) h).events = h.events := by
  induction ids generalizing h with
  | nil => rfl
  | cons id ids ih =>
    refine (ih _).trans ?_
    unfold tell
    split
    · rfl
    · cases failure with
      | some message => exact events_onConnectError h id message
      | none => exact events_onClosed h id _

/-! ### The channels of an operation -/

/-- No channel changes but one. -/
structure Only (id : ChannelId) (h h' : Hub) : Prop where
  count : h'.channels.length = h.channels.length
  wire : (h'.channel id).wire = (h.channel id).wire
  listeners : (h.channel id).listeners.Ordered → (h'.channel id).listeners.Ordered
  others : ∀ other, other ≠ id → h'.channel other = h.channel other

theorem Only.trans (o₁ : Only id h h') (o₂ : Only id h' h'') : Only id h h'' where
  count := o₂.count.trans o₁.count
  wire := o₂.wire.trans o₁.wire
  listeners := o₂.listeners ∘ o₁.listeners
  others := fun other different => (o₂.others other different).trans (o₁.others other different)

theorem channel_of_channels (same : h'.channels = h.channels) (id : ChannelId) :
    h'.channel id = h.channel id := by
  unfold channel
  rw [same]

theorem only_of_channels (same : h'.channels = h.channels) : Only id h h' :=
  ⟨congrArg List.length same, congrArg HubChannel.wire (channel_of_channels same id),
    fun ordered => (channel_of_channels same id).symm ▸ ordered,
    fun other _ => channel_of_channels same other⟩

theorem only_modify (h : Hub) (id : ChannelId) (f : HubChannel → HubChannel)
    (ns : ∀ c, (f c).ns = c.ns)
    (listeners : ∀ c, c.listeners.Ordered → (f c).listeners.Ordered) : Only id h (h.modify id f) where
  count := List.length_modify ..
  wire := wire_modify h id id f ns
  listeners ordered := by
    rw [channel_modify]
    split
    · exact listeners _ ordered
    · exact ordered
  others := fun other different => by
    rw [channel_modify, if_neg fun both => different both.1.symm]

theorem only_dispatch (h : Hub) (id : ChannelId) (event : String) (args : List Json) :
    Only id h (h.dispatch id event args) :=
  only_modify h id _ (fun _ => rfl) fun _ ordered => ordered

theorem only_mark (h : Hub) (id : ChannelId) (state : ChannelState) :
    Only id h (h.modify id fun c => { c with state, buffer := [] }) :=
  only_modify h id _ (fun _ => rfl) fun _ ordered => ordered

theorem only_onConnected (h : Hub) (id : ChannelId) : Only id h (h.onConnected id) := by
  unfold onConnected
  dsimp only
  split
  · exact only_of_channels rfl
  · refine (only_mark h id .connected).trans (.trans (only_of_channels ?_) (only_dispatch _ id _ _))
    exact channels_sendEvents id _ _

theorem only_onConnectError (h : Hub) (id : ChannelId) (message : String) :
    Only id h (h.onConnectError id message) := by
  unfold onConnectError
  split
  · exact only_of_channels rfl
  · exact (only_mark h id .errored).trans (only_dispatch _ id _ _)

theorem only_onClosed (h : Hub) (id : ChannelId) (reason : String) :
    Only id h (h.onClosed id reason) := by
  unfold onClosed
  split
  · exact (only_mark h id .closed).trans (only_dispatch _ id _ _)
  · exact (only_mark h id .errored).trans (only_dispatch _ id _ _)
  · exact only_of_channels rfl

theorem only_onEvent (h : Hub) (id : ChannelId) (event : String) (args : List Json) :
    Only id h (h.onEvent id event args) := by
  unfold onEvent
  split
  · exact only_dispatch h id event args
  · exact only_of_channels rfl

theorem channels_note (h : Hub) (p : SocketPacket) : (h.note p).channels = h.channels := by
  obtain ⟨_, noted⟩ := h.note_eq p
  rw [noted]

theorem channels_detach (h : Hub) (id : ChannelId) : (h.detach id).channels = h.channels := by
  unfold detach
  dsimp only
  split
  · rfl
  · split
    · exact channels_enqueue _ _
    · rfl

/-- A hub tells a channel that attaches nothing, or that it is connected or refused. -/
theorem attach_cases (h : Hub) (id : ChannelId) :
    ((h.attach id).channels = h.channels ∧ (h.attach id).events = h.events) ∨
      h.attach id = (h.withAttached id).onConnected id ∨
      h.attach id = (h.withAttached id).onConnectError id "connection closed" := by
  cases state : h.state with
  | idle =>
    rw [attach_idle state]
    exact .inl ⟨rfl, rfl⟩
  | connecting =>
    rw [attach_connecting state]
    exact .inl ⟨rfl, rfl⟩
  | opened =>
    rw [attach_opened state]
    split
    · exact .inr (.inl rfl)
    · exact .inl ⟨channels_enqueue _ _, events_enqueue_other rfl⟩
  | closed =>
    rw [attach_closed state]
    exact .inr (.inr rfl)

theorem only_attach (h : Hub) (id : ChannelId) : Only id h (h.attach id) := by
  have joined : Only id h (h.withAttached id) := only_of_channels rfl
  rcases h.attach_cases id with ⟨channels, _⟩ | connected | refused
  · exact only_of_channels channels
  · rw [connected]
    exact joined.trans (only_onConnected _ id)
  · rw [refused]
    exact joined.trans (only_onConnectError _ id _)

theorem only_connect (h : Hub) (id : ChannelId) : Only id h (h.connect id) := by
  unfold connect
  split
  · exact only_of_channels rfl
  · exact only_of_channels rfl
  · have marked : Only id h (h.modify id fun c => { c with state := .connecting }) :=
      only_modify h id _ (fun _ => rfl) fun _ ordered => ordered
    exact marked.trans (only_attach _ id)

theorem only_disconnect (h : Hub) (id : ChannelId) : Only id h (h.disconnect id) := by
  unfold disconnect
  dsimp only
  split
  · exact only_of_channels rfl
  · have marked := only_mark h id .closed
    split
    · refine (marked.trans (only_of_channels ?_)).trans (only_dispatch _ id _ _)
      exact (channels_detach _ id).trans (channels_enqueue _ _)
    · exact marked.trans (only_of_channels (channels_detach _ id))

theorem only_hand (h : Hub) (id : ChannelId) (p : SocketPacket) : Only id h (h.hand id p) := by
  unfold hand
  split
  · exact only_onConnected h id
  · exact only_onClosed h id _
  · exact only_onConnectError h id _
  · split
    · exact only_onEvent h id _ _
    · exact only_of_channels rfl
  · exact only_of_channels rfl

/-! ### Moves -/

theorem prefix_onConnected (h : Hub) (id : ChannelId) : h.events <+: (h.onConnected id).events :=
  ⟨_, (h.events_onConnected id).symm⟩

theorem prefix_of_eq (same : h'.events = h.events) : h.events <+: h'.events :=
  ⟨[], by rw [List.append_nil, same]⟩

theorem prefix_connect (h : Hub) (id : ChannelId) : h.events <+: (h.connect id).events := by
  unfold connect
  split
  · exact List.prefix_rfl
  · exact List.prefix_rfl
  · let h₁ := h.modify id fun c => { c with state := .connecting }
    rcases h₁.attach_cases id with ⟨_, events⟩ | connected | refused
    · exact prefix_of_eq events
    · rw [connected]
      exact prefix_onConnected (h₁.withAttached id) id
    · rw [refused]
      exact prefix_of_eq (events_onConnectError (h₁.withAttached id) id _)

theorem prefix_hand (h : Hub) (id : ChannelId) (p : SocketPacket) :
    h.events <+: (h.hand id p).events := by
  unfold hand
  split
  · exact prefix_onConnected h id
  · exact prefix_of_eq (events_onClosed h id _)
  · exact prefix_of_eq (events_onConnectError h id _)
  · split
    · exact prefix_of_eq (events_onEvent h id _ _)
    · exact List.prefix_rfl
  · exact List.prefix_rfl

theorem emit_cases {args : List Json} (emitted : h.emit id args = .ok h') :
    ((h.channel id).state = .connected ∧ h'.channels = h.channels ∧
        h'.events = h.events ++ [((h.channel id).wire, args)]) ∨
      ((h.channel id).state.buffers = true ∧ h'.events = h.events ∧
        h' = h.modify id fun c => { c with buffer := c.buffer ++ [args] }) := by
  unfold emit at emitted
  split at emitted
  · cases emitted
  · cases state : (h.channel id).state with
    | connected =>
      simp only [state, send] at emitted
      split at emitted
      · rename_i accepting
        cases emitted
        refine .inl ⟨rfl, channels_enqueue h _, ?_⟩
        rw [events_enqueue, if_pos accepting]
        rfl
      · cases emitted
    | idle | connecting =>
      simp only [state] at emitted
      cases emitted
      exact .inr ⟨rfl, rfl, rfl⟩
    | errored | closed =>
      simp only [state] at emitted
      cases emitted

theorem only_emit {args : List Json} (emitted : h.emit id args = .ok h') : Only id h h' := by
  rcases emit_cases emitted with ⟨_, channels, _⟩ | ⟨_, _, kept⟩
  · exact only_of_channels channels
  · rw [kept]
    exact only_modify h id _ (fun _ => rfl) fun _ ordered => ordered

theorem prefix_emit {args : List Json} (emitted : h.emit id args = .ok h') :
    h.events <+: h'.events := by
  rcases emit_cases emitted with ⟨_, _, events⟩ | ⟨_, events, _⟩
  · exact ⟨_, events.symm⟩
  · exact prefix_of_eq events

/-- A move about one channel: no other one changes. -/
structure Alone (id : ChannelId) (h h' : Hub) : Prop where
  only : Only id h h'
  events : h.events <+: h'.events

theorem Alone.refl (id : ChannelId) (h : Hub) : Alone id h h :=
  ⟨only_of_channels rfl, List.prefix_rfl⟩

theorem Alone.guarded {p : Prop} [Decidable p] (alone : Alone id h h') :
    Alone id h (if p then h' else h) := by
  split
  · exact alone
  · exact .refl id h

theorem receivePacket_of_addressee {p : SocketPacket}
    (addressed : (h.note p).addressee? p.ns = some id) :
    h.receivePacket p = (h.note p).hand id p := by
  unfold receivePacket
  simp only [addressed]

theorem receivePacket_of_nobody {p : SocketPacket}
    (unaddressed : (h.note p).addressee? p.ns = none) : h.receivePacket p = h.note p := by
  unfold receivePacket
  simp only [unaddressed]

/-- What is left of an emit: the hub that takes it, or the same one. -/
def emitted (h : Hub) (id : ChannelId) (args : List Json) : Hub :=
  match h.emit id args with
  | .ok h => h
  | .error _ => h

theorem alone_emitted (h : Hub) (id : ChannelId) (args : List Json) :
    Alone id h (h.emitted id args) := by
  unfold emitted
  split
  · rename_i taken
    exact ⟨only_emit taken, prefix_emit taken⟩
  · exact .refl id h

variable {m : HubMove}

theorem alone_of_subject (about : h.subject? m = some id) : Alone id h (h.move m) := by
  cases m with
  | connected =>
    cases about
    exact Alone.guarded ⟨only_onConnected h id, prefix_onConnected h id⟩
  | refused _ message =>
    cases about
    exact Alone.guarded
      ⟨only_onConnectError h id message, prefix_of_eq (events_onConnectError h id message)⟩
  | closed _ reason =>
    cases about
    exact Alone.guarded ⟨only_onClosed h id reason, prefix_of_eq (events_onClosed h id reason)⟩
  | event e =>
    cases e with
    | connect =>
      cases about
      exact Alone.guarded ⟨only_connect h id, prefix_connect h id⟩
    | disconnect =>
      cases about
      exact Alone.guarded ⟨only_disconnect h id, prefix_of_eq (events_disconnect h id)⟩
    | emit _ args =>
      cases about
      exact Alone.guarded (alone_emitted h id args)
    | receive frame =>
      cases frame with
      | message p =>
        have addressed : (h.note p).addressee? p.ns = some id := about
        have received : Alone id h (h.receivePacket p) := by
          rw [receivePacket_of_addressee addressed]
          exact ⟨(only_of_channels (channels_note h p)).trans (only_hand _ id p),
            (prefix_of_eq (events_note h p)).trans (prefix_hand _ id p)⟩
        exact received.guarded
      | _ => cases about
    | _ => cases about

end Hub

end LiveSession
