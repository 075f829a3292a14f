import LiveSession.Proofs.Connection.Outbox

/-!
# What channels keep of their emits

A move on a hub is about no channel, and then channels at most fail, or about one. `Hub.serves_move`
says what this one does with the emits that it keeps, and what is put into the queue for it.
-/

namespace LiveSession

/-! ### What becomes of the emits that a channel keeps -/

namespace HubChannel

variable {c c' c'' : HubChannel} {sent : List (String × List Json)}

/-- What happens to the emits that a channel keeps, when nothing is emitted: they are kept, or sent,
or dropped. The last argument is what is sent. -/
inductive Passes (c c' : HubChannel) : List (String × List Json) → Prop
  | still (buffer : c'.buffer = c.buffer)
      (state : c'.state.buffers = true ∨ c.state.buffers = false) : Passes c c' []
  | flushed (state : c'.state = .connected) (buffer : c'.buffer = []) :
      Passes c c' (c.buffer.map fun args => (c.wire, args))
  | failed (state : c'.state = .errored ∨ c'.state = .closed) (buffer : c'.buffer = []) :
      Passes c c' []

/-- A channel stays in its state with what it keeps, or fails without it. -/
structure Fails (c c' : HubChannel) : Prop where
  wire : c'.wire = c.wire
  kept : (c'.state = c.state ∧ c'.buffer = c.buffer) ∨
    ((c'.state = .errored ∨ c'.state = .closed) ∧ c'.buffer = [])

theorem Fails.of_eq (same : c' = c) : Fails c c' := by
  rw [same]
  exact ⟨rfl, .inl ⟨rfl, rfl⟩⟩

theorem Fails.trans (f₁ : Fails c c') (f₂ : Fails c' c'') : Fails c c'' := by
  refine ⟨f₂.wire.trans f₁.wire, ?_⟩
  rcases f₂.kept with ⟨state, buffer⟩ | failed
  · rcases f₁.kept with ⟨state', buffer'⟩ | failed
    · exact .inl ⟨state.trans state', buffer.trans buffer'⟩
    · rw [← state, ← buffer] at failed
      exact .inr failed
  · exact .inr failed

theorem Fails.passes (fails : Fails c c') : Passes c c' [] := by
  rcases fails.kept with ⟨state, buffer⟩ | ⟨state, buffer⟩
  · refine .still buffer ?_
    rw [state]
    cases c.state.buffers
    · exact .inr rfl
    · exact .inl rfl
  · exact .failed state buffer

theorem Passes.after_still (buffer : c'.buffer = c.buffer) (wire : c'.wire = c.wire)
    (keeps : c'.state.buffers = true) (passes : Passes c' c'' sent) : Passes c c'' sent := by
  cases passes with
  | still buffer' state =>
    rw [keeps] at state
    exact .still (buffer'.trans buffer) (state.imp_right nofun)
  | flushed state buffer' =>
    rw [buffer, wire]
    exact .flushed state buffer'
  | failed state buffer' => exact .failed state buffer'

end HubChannel

namespace Hub

variable {h h' h'' : Hub} {id : ChannelId}

theorem channel_modify_self (below : id < h.channels.length) (f : HubChannel → HubChannel) :
    (h.modify id f).channel id = f (h.channel id) := by
  rw [channel_modify, if_pos ⟨rfl, below⟩]

theorem channel_modify_twice (below : id < h.channels.length) (f g : HubChannel → HubChannel) :
    ((h.modify id f).modify id g).channel id = g (f (h.channel id)) := by
  have below' : id < (h.modify id f).channels.length := by
    unfold modify
    rw [List.length_modify]
    exact below
  rw [channel_modify_self below', channel_modify_self below]

theorem fails_onConnectError (below : id < h.channels.length) (message : String) :
    (h.channel id).Fails ((h.onConnectError id message).channel id) := by
  unfold onConnectError Hub.dispatch
  split
  · exact .of_eq rfl
  · rw [channel_modify_twice below]
    exact ⟨rfl, .inr ⟨.inl rfl, rfl⟩⟩

theorem fails_onClosed (below : id < h.channels.length) (reason : String) :
    (h.channel id).Fails ((h.onClosed id reason).channel id) := by
  unfold onClosed Hub.dispatch
  split
  · rw [channel_modify_twice below]
    exact ⟨rfl, .inr ⟨.inr rfl, rfl⟩⟩
  · rw [channel_modify_twice below]
    exact ⟨rfl, .inr ⟨.inl rfl, rfl⟩⟩
  · exact .of_eq rfl

theorem fails_onEvent (below : id < h.channels.length) (event : String) (args : List Json) :
    (h.channel id).Fails ((h.onEvent id event args).channel id) := by
  unfold onEvent Hub.dispatch
  split
  · rw [channel_modify_self below]
    exact ⟨rfl, .inl ⟨rfl, rfl⟩⟩
  · exact .of_eq rfl

theorem only_tell (failure : Option String) (h : Hub) (id : ChannelId) :
    Only id h (tell failure h id) := by
  unfold tell
  split
  · exact only_of_channels rfl
  · cases failure with
    | some message => exact only_onConnectError h id message
    | none => exact only_onClosed h id _

theorem count_tellAll (failure : Option String) (ids : List ChannelId) (h : Hub) :
    (ids.foldl (tell failure) h).channels.length = h.channels.length := by
  induction ids generalizing h with
  | nil => rfl
  | cons id ids ih => exact (ih _).trans (only_tell failure h id).count

theorem fails_tellAll (failure : Option String) (ids : List ChannelId) (h : Hub)
    (below : id < h.channels.length) :
    (h.channel id).Fails ((ids.foldl (tell failure) h).channel id) := by
  induction ids generalizing h with
  | nil => exact .of_eq rfl
  | cons other ids ih =>
    have told := only_tell failure h other
    have first : (h.channel id).Fails ((tell failure h other).channel id) := by
      by_cases same : id = other
      · rw [← same]
        unfold tell
        split
        · exact .of_eq rfl
        · cases failure with
          | some message => exact fails_onConnectError below message
          | none => exact fails_onClosed below _
      · exact .of_eq (told.others id same)
    exact first.trans (ih _ (by rw [told.count]; exact below))

def Accepts (id : ChannelId) (h : Hub) : Prop :=
  (h.channel id).state = .connected → h.accepting = true

/-- What an operation on a channel does with its emits. -/
def Serves (id : ChannelId) (h h' : Hub) : Prop :=
  ∃ sent, h'.events = h.events ++ sent ∧ (h.channel id).Passes (h'.channel id) sent

theorem serves_of_fails (events : h'.events = h.events)
    (fails : (h.channel id).Fails (h'.channel id)) : Serves id h h' :=
  ⟨[], events.trans (List.append_nil _).symm, fails.passes⟩

theorem channel_onConnected (below : id < h.channels.length)
    (waits : (h.channel id).state = .connecting) :
    (h.onConnected id).channel id =
      ({ h.channel id with state := .connected, buffer := [] } : HubChannel).dispatch connectEvent
        [] := by
  let h₁ := h.modify id fun c => { c with state := .connected, buffer := [] }
  let h₂ := (h.channel id).buffer.foldl (fun h args => h.sendEvent id args) h₁
  have channels : h₂.channels = h₁.channels := channels_sendEvents id _ h₁
  have told : h.onConnected id = h₂.dispatch id connectEvent [] :=
    if_neg fun different => different waits
  have same : (h₂.dispatch id connectEvent []).channels =
      (h₁.modify id fun c => c.dispatch connectEvent []).channels := by
    unfold Hub.dispatch modify
    rw [channels]
  rw [told, channel_of_channels same, channel_modify_twice below]

theorem serves_onConnected (below : id < h.channels.length)
    (accepts : (h.onConnected id).Accepts id) : Serves id h (h.onConnected id) := by
  by_cases waits : (h.channel id).state = .connecting
  · refine ⟨_, h.events_onConnected id, ?_⟩
    have after := channel_onConnected below waits
    have accepting : h.accepting = true := by
      rw [← (turns_onConnected below).accepting]
      refine accepts ?_
      rw [after]
      rfl
    rw [after, if_pos ⟨waits, accepting⟩]
    exact .flushed rfl rfl
  · have still : h.onConnected id = h := if_pos waits
    rw [still]
    exact serves_of_fails rfl (.of_eq rfl)

theorem serves_attach (below : id < h.channels.length) (accepts : (h.attach id).Accepts id) :
    Serves id h (h.attach id) := by
  rcases h.attach_cases id with ⟨channels, events⟩ | connected | refused
  · exact serves_of_fails events (.of_eq (channel_of_channels channels id))
  · rw [connected] at accepts ⊢
    exact serves_onConnected (h := h.withAttached id) below accepts
  · rw [refused]
    exact serves_of_fails (events_onConnectError (h.withAttached id) id _)
      (fails_onConnectError (h := h.withAttached id) below _)

theorem serves_connect (below : id < h.channels.length) (accepts : (h.connect id).Accepts id) :
    Serves id h (h.connect id) := by
  let h₁ := h.modify id fun c => { c with state := .connecting }
  have below₁ : id < h₁.channels.length := by
    unfold h₁ modify
    rw [List.length_modify]
    exact below
  have marked : h₁.channel id = { h.channel id with state := .connecting } :=
    channel_modify_self below _
  by_cases used : (h.channel id).state = .connecting ∨ (h.channel id).state = .connected
  · have still : h.connect id = h := by
      unfold connect
      rcases used with state | state <;> rw [state]
    rw [still]
    exact serves_of_fails rfl (.of_eq rfl)
  · have attaches : h.connect id = h₁.attach id := by
      unfold connect
      cases state : (h.channel id).state with
      | connecting => exact absurd (.inl state) used
      | connected => exact absurd (.inr state) used
      | _ => rfl
    rw [attaches] at accepts ⊢
    obtain ⟨sent, events, passes⟩ := serves_attach below₁ accepts
    refine ⟨sent, events, passes.after_still ?_ ?_ ?_⟩ <;> rw [marked] <;> rfl

theorem disconnect_closed (closed : (h.channel id).state = .closed) : h.disconnect id = h :=
  if_pos closed

theorem channel_disconnect (below : id < h.channels.length)
    (open_ : (h.channel id).state ≠ .closed) :
    (h.disconnect id).channel id =
      if (h.channel id).state = .connected then
        ({ h.channel id with state := .closed, buffer := [] } : HubChannel).dispatch
          disconnectEvent [.str clientReason]
      else { h.channel id with state := .closed, buffer := [] } := by
  let h₁ := h.modify id fun c => { c with state := .closed, buffer := [] }
  unfold disconnect
  dsimp only
  rw [if_neg open_]
  split
  · let h₂ := (h₁.enqueue (.send (.message (.disconnect (h.channel id).wire)))).detach id
    have channels : h₂.channels = h₁.channels :=
      (channels_detach _ id).trans (channels_enqueue _ _)
    have same : (h₂.dispatch id disconnectEvent [.str clientReason]).channels =
        (h₁.modify id fun c => c.dispatch disconnectEvent [.str clientReason]).channels := by
      unfold Hub.dispatch modify
      rw [channels]
    rw [channel_of_channels same, channel_modify_twice below]
  · rw [channel_of_channels (channels_detach h₁ id), channel_modify_self below]

theorem state_disconnect (below : id < h.channels.length) :
    ((h.disconnect id).channel id).state = .closed := by
  by_cases closed : (h.channel id).state = .closed
  · rw [disconnect_closed closed]
    exact closed
  · rw [channel_disconnect below closed]
    split <;> rfl

theorem fails_disconnect (below : id < h.channels.length) :
    (h.channel id).Fails ((h.disconnect id).channel id) := by
  by_cases closed : (h.channel id).state = .closed
  · rw [disconnect_closed closed]
    exact .of_eq rfl
  · rw [channel_disconnect below closed]
    split <;> exact ⟨rfl, .inr ⟨.inr rfl, rfl⟩⟩

theorem serves_hand (below : id < h.channels.length) (p : SocketPacket)
    (accepts : (h.hand id p).Accepts id) : Serves id h (h.hand id p) := by
  unfold hand at accepts ⊢
  split at accepts
  · exact serves_onConnected below accepts
  · exact serves_of_fails (events_onClosed h id _) (fails_onClosed below _)
  · exact serves_of_fails (events_onConnectError h id _) (fails_onConnectError below _)
  · split
    · exact serves_of_fails (events_onEvent h id _ _) (fails_onEvent below _ _)
    · exact serves_of_fails rfl (.of_eq rfl)
  · exact serves_of_fails rfl (.of_eq rfl)

/-! ### Moves about no channel -/

/-- A move about no channel: it puts no event frame into the queue, and channels at most fail. -/
structure Quiet (h h' : Hub) : Prop where
  events : h'.events = h.events
  count : h.channels.length ≤ h'.channels.length
  fails : ∀ id < h.channels.length, (h.channel id).Fails (h'.channel id)

theorem Quiet.of_channels (events : h'.events = h.events) (channels : h'.channels = h.channels) :
    Quiet h h' :=
  ⟨events, Nat.le_of_eq (congrArg List.length channels.symm),
    fun id _ => .of_eq (channel_of_channels channels id)⟩

theorem Quiet.guarded {p : Prop} [Decidable p] (quiet : Quiet h h') :
    Quiet h (if p then h' else h) := by
  split
  · exact quiet
  · exact .of_channels rfl rfl

theorem Quiet.of_only (events : h'.events = h.events) (only : Only id h h')
    (state : (h'.channel id).state = (h.channel id).state)
    (buffer : (h'.channel id).buffer = (h.channel id).buffer) : Quiet h h' := by
  refine ⟨events, Nat.le_of_eq only.count.symm, fun other _ => ?_⟩
  by_cases same : other = id
  · rw [same]
    exact ⟨only.wire, .inl ⟨state, buffer⟩⟩
  · exact .of_eq (only.others other same)

theorem quiet_modify (h : Hub) (id : ChannelId) (f : HubChannel → HubChannel)
    (ns : ∀ c, (f c).ns = c.ns) (state : ∀ c, (f c).state = c.state)
    (buffer : ∀ c, (f c).buffer = c.buffer)
    (listeners : ∀ c, c.listeners.Ordered → (f c).listeners.Ordered) : Quiet h (h.modify id f) := by
  refine .of_only rfl (only_modify h id f ns listeners) ?_ ?_ <;> rw [channel_modify] <;> split
  · exact state _
  · rfl
  · exact buffer _
  · rfl

theorem quiet_create (h : Hub) (ns : String) : Quiet h (h.create ns) := by
  refine ⟨rfl, by simp [create], fun id below => .of_eq ?_⟩
  unfold channel create
  rw [List.getElem?_append_left below]

theorem quiet_drop (h : Hub) (id : ChannelId) : Quiet h (h.drop id) := by
  let h₁ := h.modify id fun c => { c with dropped := true }
  have marked : Quiet h h₁ :=
    quiet_modify h id _ (fun _ => rfl) (fun _ => rfl) (fun _ => rfl) fun _ ordered => ordered
  unfold drop
  dsimp only
  split
  · exact .of_channels rfl rfl
  · split
    · exact marked
    · have same : ∀ other, (h₁.detach id).channel other = h₁.channel other :=
        channel_of_channels (channels_detach h₁ id)
      refine ⟨events_detach h₁ id, ?_, fun other below => ?_⟩
      · rw [channels_detach h₁ id]
        exact marked.count
      · rw [same]
        exact marked.fails other below

theorem quiet_finish (h : Hub) (failure : Option String) : Quiet h (h.finish failure) := by
  let h₁ : Hub :=
    { h with state := .closed, phase := .ended, accepting := false, confirmed := [], attached := [] }
  rw [finish_eq]
  refine ⟨events_tellAll failure _ h₁, ?_, fun id below => fails_tellAll failure _ h₁ below⟩
  exact Nat.le_of_eq (count_tellAll failure _ h₁).symm

variable {m : HubMove}

theorem quiet_receive {frame : EnginePacket}
    (nobody : h.subject? (.event (.receive frame)) = none) : Quiet h (h.receive frame).1 := by
  cases frame with
  | message p =>
    have left : (h.receive (.message p)).1 = h.note p := receivePacket_of_nobody nobody
    rw [left]
    exact .of_channels (events_note h p) (channels_note h p)
  | opened info =>
    exact .of_channels (events_sendFrames _ _ _ fun _ => rfl) (channels_sendFrames _ _ _)
  | close => exact .of_channels (events_shutDown h) (channels_enqueue h _)
  | ping | pong | upgrade | noop => exact .of_channels rfl rfl

theorem quiet_of_nobody (nobody : h.subject? m = none) : Quiet h (h.move m) := by
  cases m with
  | connected | refused | closed => cases nobody
  | event e =>
    cases e with
    | connect | disconnect | emit => cases nobody
    | create ns => exact quiet_create h ns
    | listen id event =>
      have listening : Quiet h (h.listen id event) :=
        quiet_modify h id _ (fun _ => rfl) (fun _ => rfl) (fun _ => rfl)
          fun _ ordered => ordered.add event ()
      exact listening.guarded
    | unlisten id event number =>
      have leaving : Quiet h (h.unlisten id event number) :=
        quiet_modify h id _ (fun _ => rfl) (fun _ => rfl) (fun _ => rfl)
          fun _ ordered => ordered.remove event number
      exact leaving.guarded
    | drop id => exact (quiet_drop h id).guarded
    | accepted =>
      have running : Quiet h { h with phase := .running } := .of_channels rfl rfl
      exact running.guarded
    | finish failure => exact (quiet_finish h failure).guarded
    | receive frame => exact (quiet_receive nobody).guarded

/-! ### Runs -/

theorem events_move (h : Hub) (m : HubMove) :
    (h.move m).events = h.events ++ (h.puts m).map Prod.snd := by
  unfold puts
  cases subject : h.subject? m with
  | none => exact (quiet_of_nobody subject).events.trans (List.append_nil _).symm
  | some id =>
    obtain ⟨sent, events⟩ := (alone_of_subject subject).events
    simp only [← events, List.drop_left, List.map_map]
    exact congrArg _ (List.map_id _).symm

/-- Every event frame that a run puts into the queue is in the outbox, with its channel. -/
theorem events_walk (h : Hub) (moves : List HubMove) :
    (h.walk moves).events = h.events ++ (h.outbox moves).map Prod.snd := by
  induction moves generalizing h with
  | nil => exact (List.append_nil _).symm
  | cons m moves ih =>
    unfold outbox
    rw [List.map_append, ← List.append_assoc, ← events_move]
    exact ih _

def accepted? (h : Hub) (id : ChannelId) : HubMove → Option (List Json)
  | .event (.emit other args) =>
    if other = id ∧ h.isHeld id = true ∧ (h.emit id args).toOption.isSome = true then some args
    else none
  | _ => none

theorem Serves.guarded {p : Prop} [Decidable p]
    (accepts : (if p then h' else h).Accepts id) (serves : h'.Accepts id → Serves id h h') :
    Serves id h (if p then h' else h) := by
  split at accepts
  · rename_i holds
    rw [if_pos holds]
    exact serves accepts
  · rename_i fails
    rw [if_neg fails]
    exact serves_of_fails rfl (.of_eq rfl)

/-- A move about a channel serves its emits, unless it makes another one. -/
theorem serves_move (below : id < h.channels.length) (about : h.subject? m = some id)
    (other : h.accepted? id m = none) (accepts : (h.move m).Accepts id) :
    Serves id h (h.move m) := by
  cases m with
  | connected =>
    cases about
    exact .guarded accepts (serves_onConnected below)
  | refused _ message =>
    cases about
    exact .guarded accepts fun _ =>
      serves_of_fails (events_onConnectError h id message) (fails_onConnectError below _)
  | closed _ reason =>
    cases about
    exact .guarded accepts fun _ =>
      serves_of_fails (events_onClosed h id reason) (fails_onClosed below _)
  | event e =>
    cases e with
    | connect =>
      cases about
      exact .guarded accepts (serves_connect below)
    | disconnect =>
      cases about
      exact .guarded accepts fun _ =>
        serves_of_fails (events_disconnect h id) (fails_disconnect below)
    | emit _ args =>
      cases about
      have refused : h.move (.event (.emit id args)) = h := by
        by_cases held : h.isHeld id = true
        · have tried : h.move (.event (.emit id args)) = h.emitted id args := if_pos held
          rw [tried, emitted]
          cases answer : h.emit id args with
          | ok h' =>
            have accepted : h.accepted? id (.event (.emit id args)) = some args :=
              if_pos ⟨rfl, held, by rw [answer]; rfl⟩
            rw [accepted] at other
            cases other
          | error => rfl
        · exact if_neg held
      rw [refused]
      exact serves_of_fails rfl (.of_eq rfl)
    | receive frame =>
      cases frame with
      | message p =>
        have addressed : (h.note p).addressee? p.ns = some id := about
        refine Serves.guarded accepts fun accepts => ?_
        have received : (h.receive (.message p)).1 = (h.note p).hand id p :=
          receivePacket_of_addressee addressed
        rw [received] at accepts ⊢
        have below' : id < (h.note p).channels.length := by
          rw [channels_note]
          exact below
        obtain ⟨sent, events, passes⟩ := serves_hand below' p accepts
        rw [events_note] at events
        rw [channel_of_channels (channels_note h p)] at passes
        exact ⟨sent, events, passes⟩
      | _ => cases about
    | _ => cases about

end Hub

end LiveSession
