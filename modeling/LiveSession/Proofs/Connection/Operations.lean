import LiveSession.Connection.Hub

/-!
# What operations do to a hub

Most of what happens on a hub leaves alone who is attached and how far the connection is. `Keeps`
says so; `Calm` adds that no channel changes its state, and `Turns` that one of them does.
-/

namespace LiveSession

namespace ChannelState

def connects : ChannelState → ChannelState
  | connecting => connected
  | s => s

def fails : ChannelState → ChannelState
  | closed => closed
  | _ => errored

def closes : ChannelState → ChannelState
  | connected => closed
  | connecting => errored
  | s => s

end ChannelState

namespace Hub

variable {h h' h'' : Hub} {id : ChannelId} {g : ChannelState → ChannelState}

/-- Who is attached and how far the connection is stays as it is. -/
structure Keeps (h h' : Hub) : Prop where
  attached : h'.attached = h.attached
  state : h'.state = h.state
  phase : h'.phase = h.phase
  accepting : h'.accepting = h.accepting
  queue : ∀ command ∈ h.queue, command ∈ h'.queue
  count : h.channels.length ≤ h'.channels.length
  wires : ∀ id < h.channels.length, (h'.channel id).wire = (h.channel id).wire

/-- The channels stay in their states as well. -/
structure Calm (h h' : Hub) : Prop extends Keeps h h' where
  states : ∀ id < h.channels.length, (h'.channel id).state = (h.channel id).state

/-- One channel changes its state. -/
structure Turns (id : ChannelId) (g : ChannelState → ChannelState) (h h' : Hub) : Prop
    extends Keeps h h' where
  turned : (h'.channel id).state = g (h.channel id).state
  others : ∀ other < h.channels.length, other ≠ id →
    (h'.channel other).state = (h.channel other).state

/-- Other channels stay as they are, and they are in the same states. -/
structure Apart (id : ChannelId) (h h' : Hub) : Prop where
  count : h.channels.length ≤ h'.channels.length
  wires : ∀ id < h.channels.length, (h'.channel id).wire = (h.channel id).wire
  others : ∀ other < h.channels.length, other ≠ id →
    (h'.channel other).state = (h.channel other).state

theorem Turns.apart (turns : Turns id g h h') : Apart id h h' :=
  ⟨turns.count, turns.wires, turns.others⟩

theorem Calm.apart (calm : Calm h h') : Apart id h h' :=
  ⟨calm.count, calm.wires, fun other below _ => calm.states other below⟩

theorem Apart.trans (a₁ : Apart id h h') (a₂ : Apart id h' h'') : Apart id h h'' where
  count := Nat.le_trans a₁.count a₂.count
  wires := fun other below =>
    (a₂.wires other (Nat.lt_of_lt_of_le below a₁.count)).trans (a₁.wires other below)
  others := fun other below different =>
    (a₂.others other (Nat.lt_of_lt_of_le below a₁.count) different).trans
      (a₁.others other below different)

theorem Keeps.refl (h : Hub) : Keeps h h :=
  ⟨rfl, rfl, rfl, rfl, fun _ member => member, Nat.le_refl _, fun _ _ => rfl⟩

theorem Keeps.trans (k₁ : Keeps h h') (k₂ : Keeps h' h'') : Keeps h h'' where
  attached := k₂.attached.trans k₁.attached
  state := k₂.state.trans k₁.state
  phase := k₂.phase.trans k₁.phase
  accepting := k₂.accepting.trans k₁.accepting
  queue := fun command member => k₂.queue command (k₁.queue command member)
  count := Nat.le_trans k₁.count k₂.count
  wires := fun id below =>
    (k₂.wires id (Nat.lt_of_lt_of_le below k₁.count)).trans (k₁.wires id below)

theorem Calm.refl (h : Hub) : Calm h h := ⟨.refl h, fun _ _ => rfl⟩

theorem Calm.trans (c₁ : Calm h h') (c₂ : Calm h' h'') : Calm h h'' :=
  ⟨c₁.toKeeps.trans c₂.toKeeps, fun id below =>
    (c₂.states id (Nat.lt_of_lt_of_le below c₁.count)).trans (c₁.states id below)⟩

theorem Turns.then_calm (below : id < h.channels.length) (turns : Turns id g h h')
    (calm : Calm h' h'') : Turns id g h h'' where
  toKeeps := turns.toKeeps.trans calm.toKeeps
  turned := (calm.states id (Nat.lt_of_lt_of_le below turns.count)).trans turns.turned
  others := fun other within different =>
    (calm.states other (Nat.lt_of_lt_of_le within turns.count)).trans
      (turns.others other within different)

theorem Calm.turns (calm : Calm h h') (below : id < h.channels.length)
    (same : g (h.channel id).state = (h.channel id).state) : Turns id g h h' where
  toKeeps := calm.toKeeps
  turned := (calm.states id below).trans same.symm
  others := fun other within _ => calm.states other within

/-! ### Channels -/

theorem channel_modify (h : Hub) (id : ChannelId) (f : HubChannel → HubChannel)
    (other : ChannelId) :
    (h.modify id f).channel other =
      if id = other ∧ other < h.channels.length then f (h.channel other) else h.channel other := by
  unfold channel modify
  rw [List.getElem?_modify]
  by_cases below : other < h.channels.length
  · rw [List.getElem?_eq_getElem below]
    by_cases same : id = other
    · rw [if_pos ⟨same, below⟩]
      simp [same]
    · rw [if_neg fun both => same both.1]
      simp [same]
  · rw [List.getElem?_eq_none (Nat.le_of_not_lt below), if_neg fun both => below both.2]
    rfl

theorem keeps_modify (h : Hub) (id : ChannelId) (f : HubChannel → HubChannel)
    (ns : ∀ c, (f c).ns = c.ns) : Keeps h (h.modify id f) := by
  refine ⟨rfl, rfl, rfl, rfl, fun _ member => member, Nat.le_of_eq (List.length_modify ..).symm, ?_⟩
  intro other _
  rw [channel_modify]
  split
  · exact congrArg wireNamespace (ns _)
  · rfl

theorem calm_modify (h : Hub) (id : ChannelId) (f : HubChannel → HubChannel)
    (ns : ∀ c, (f c).ns = c.ns) (state : ∀ c, (f c).state = c.state) : Calm h (h.modify id f) := by
  refine ⟨keeps_modify h id f ns, fun other _ => ?_⟩
  rw [channel_modify]
  split
  · exact state _
  · rfl

theorem turns_modify (below : id < h.channels.length) (f : HubChannel → HubChannel)
    (ns : ∀ c, (f c).ns = c.ns) (state : (f (h.channel id)).state = g (h.channel id).state) :
    Turns id g h (h.modify id f) := by
  refine ⟨keeps_modify h id f ns, ?_, fun other _ different => ?_⟩
  · rw [channel_modify, if_pos ⟨rfl, below⟩]
    exact state
  · rw [channel_modify, if_neg fun both => different both.1.symm]

theorem calm_dispatch (h : Hub) (id : ChannelId) (event : String) (args : List Json) :
    Calm h (h.dispatch id event args) :=
  calm_modify h id _ (fun _ => rfl) fun _ => rfl

theorem calm_create (h : Hub) (ns : String) : Calm h (h.create ns) := by
  have same (id : ChannelId) (below : id < h.channels.length) :
      (h.create ns).channel id = h.channel id := by
    unfold channel create
    rw [List.getElem?_append_left below]
  refine ⟨⟨rfl, rfl, rfl, rfl, fun _ member => member, ?_, ?_⟩, ?_⟩
  · exact Nat.le_of_lt (by simp [create])
  · exact fun id below => congrArg HubChannel.wire (same id below)
  · exact fun id below => congrArg HubChannel.state (same id below)

theorem calm_listen (h : Hub) (id : ChannelId) (event : String) : Calm h (h.listen id event) :=
  calm_modify h id _ (fun _ => rfl) fun _ => rfl

theorem calm_unlisten (h : Hub) (id : ChannelId) (event : String) (number : Nat) :
    Calm h (h.unlisten id event number) :=
  calm_modify h id _ (fun _ => rfl) fun _ => rfl

/-! ### The queue -/

theorem queue_enqueue (h : Hub) (command : Command) :
    (h.enqueue command).queue = h.queue ++ if h.accepting then [command] else [] := by
  unfold enqueue
  split
  · rfl
  · rw [List.append_nil]

theorem calm_enqueue (h : Hub) (command : Command) : Calm h (h.enqueue command) := by
  unfold enqueue
  split
  · exact ⟨⟨rfl, rfl, rfl, rfl, fun _ member => List.mem_append_left _ member, Nat.le_refl _,
      fun _ _ => rfl⟩, fun _ _ => rfl⟩
  · exact .refl h

theorem calm_sendEvents (id : ChannelId) (events : List (List Json)) (h : Hub) :
    Calm h (events.foldl (fun h args => h.sendEvent id args) h) := by
  induction events generalizing h with
  | nil => exact .refl h
  | cons args events ih => exact (calm_enqueue h _).trans (ih _)

theorem calm_sendFrames (frame : String → EnginePacket) (wires : List String) (h : Hub) :
    Calm h (wires.foldl (fun h wire => h.enqueue (.send (frame wire))) h) := by
  induction wires generalizing h with
  | nil => exact .refl h
  | cons wire wires ih => exact (calm_enqueue h _).trans (ih _)

theorem calm_emit {args : List Json} (emitted : h.emit id args = .ok h') : Calm h h' := by
  unfold emit at emitted
  split at emitted
  · cases emitted
  · cases state : (h.channel id).state with
    | connected =>
      simp only [state, send] at emitted
      split at emitted
      · cases emitted
        exact calm_enqueue h _
      · cases emitted
    | idle | connecting =>
      simp only [state] at emitted
      cases emitted
      exact calm_modify h id _ (fun _ => rfl) fun _ => rfl
    | errored | closed =>
      simp only [state] at emitted
      cases emitted

theorem note_eq (h : Hub) (p : SocketPacket) : ∃ confirmed, h.note p = { h with confirmed } := by
  unfold note
  split
  · split
    · exact ⟨h.confirmed, rfl⟩
    · exact ⟨_, rfl⟩
  · exact ⟨_, rfl⟩
  · exact ⟨_, rfl⟩
  · exact ⟨h.confirmed, rfl⟩
  · exact ⟨h.confirmed, rfl⟩

theorem calm_note (h : Hub) (p : SocketPacket) : Calm h (h.note p) := by
  obtain ⟨_, noted⟩ := h.note_eq p
  rw [noted]
  exact ⟨⟨rfl, rfl, rfl, rfl, fun _ member => member, Nat.le_refl _, fun _ _ => rfl⟩, fun _ _ => rfl⟩

/-! ### What a channel is told -/

theorem turns_onConnected (below : id < h.channels.length) :
    Turns id .connects h (h.onConnected id) := by
  unfold onConnected
  by_cases waits : (h.channel id).state = .connecting
  · rw [if_neg fun different => different waits]
    have turned : Turns id .connects h
        (h.modify id fun c => { c with state := .connected, buffer := [] }) :=
      turns_modify below _ (fun _ => rfl) (by rw [waits]; rfl)
    exact turned.then_calm below ((calm_sendEvents id _ _).trans (calm_dispatch _ _ _ _))
  · rw [if_pos waits]
    refine (Calm.refl h).turns below ?_
    cases state : (h.channel id).state with
    | connecting => exact absurd state waits
    | _ => rfl

theorem turns_onConnectError (below : id < h.channels.length) (message : String) :
    Turns id .fails h (h.onConnectError id message) := by
  unfold onConnectError
  by_cases closed : (h.channel id).state = .closed
  · rw [if_pos closed]
    exact (Calm.refl h).turns below (by rw [closed]; rfl)
  · rw [if_neg closed]
    have turned : Turns id .fails h
        (h.modify id fun c => { c with state := .errored, buffer := [] }) := by
      refine turns_modify below _ (fun _ => rfl) ?_
      cases state : (h.channel id).state with
      | closed => exact absurd state closed
      | _ => rfl
    exact turned.then_calm below (calm_dispatch _ _ _ _)

theorem turns_onClosed (below : id < h.channels.length) (reason : String) :
    Turns id .closes h (h.onClosed id reason) := by
  unfold onClosed
  split
  · rename_i state
    have turned : Turns id .closes h
        (h.modify id fun c => { c with state := .closed, buffer := [] }) :=
      turns_modify below _ (fun _ => rfl) (by rw [state]; rfl)
    exact turned.then_calm below (calm_dispatch _ _ _ _)
  · rename_i state
    have turned : Turns id .closes h
        (h.modify id fun c => { c with state := .errored, buffer := [] }) :=
      turns_modify below _ (fun _ => rfl) (by rw [state]; rfl)
    exact turned.then_calm below (calm_dispatch _ _ _ _)
  · rename_i connected connecting
    refine (Calm.refl h).turns below ?_
    cases state : (h.channel id).state with
    | connected => exact absurd state connected
    | connecting => exact absurd state connecting
    | _ => rfl

theorem calm_onEvent (h : Hub) (id : ChannelId) (event : String) (args : List Json) :
    Calm h (h.onEvent id event args) := by
  unfold onEvent
  split
  · exact calm_dispatch h id event args
  · exact .refl h

/-! ### Attaching -/

/-- The hub with a channel among those that are attached. -/
def withAttached (h : Hub) (id : ChannelId) : Hub :=
  { h with attached := h.attached.set (h.channel id).wire id }

theorem attach_idle (idle : h.state = .idle) :
    h.attach id =
      { h.withAttached id with state := .connecting, phase := .handshake, accepting := true } := by
  cases h
  cases idle
  rfl

theorem attach_connecting (connecting : h.state = .connecting) :
    h.attach id = h.withAttached id := by
  cases h
  cases connecting
  rfl

theorem attach_opened (opened : h.state = .opened) :
    h.attach id =
      if h.confirmed.contains (h.channel id).wire then (h.withAttached id).onConnected id
      else (h.withAttached id).enqueue (.send (.message (.connect (h.channel id).wire))) := by
  cases h
  cases opened
  rfl

theorem attach_closed (closed : h.state = .closed) :
    h.attach id = (h.withAttached id).onConnectError id "connection closed" := by
  cases h
  cases closed
  rfl

/-- A channel that attaches is refused if the hub is closed, and may be connected otherwise. -/
theorem turns_attach (below : id < h.channels.length) (started : h.state ≠ .idle) :
    ∃ g, (∀ s, g s = ChannelState.closed ↔ s = .closed) ∧
      (h.state = .closed → ∀ s, s ≠ .closed → g s = .errored) ∧
      Turns id g (h.withAttached id) (h.attach id) := by
  have below' : id < (h.withAttached id).channels.length := below
  -- What the hub tells the channel depends on its own state: nothing, a connection or a refusal.
  have still : Turns id (fun s => s) (h.withAttached id) (h.withAttached id) :=
    (Calm.refl _).turns below rfl
  cases state : h.state with
  | idle => exact absurd state started
  | connecting =>
    rw [attach_connecting state]
    exact ⟨_, fun s => Iff.rfl, nofun, still⟩
  | opened =>
    rw [attach_opened state]
    split
    · refine ⟨.connects, fun s => ?_, nofun, turns_onConnected below'⟩
      cases s <;> simp [ChannelState.connects]
    · exact ⟨_, fun s => Iff.rfl, nofun, still.then_calm below (calm_enqueue _ _)⟩
  | closed =>
    rw [attach_closed state]
    refine ⟨.fails, fun s => ?_, fun _ s open_ => ?_, turns_onConnectError below' _⟩
    · cases s <;> simp [ChannelState.fails]
    · cases s with
      | closed => exact absurd rfl open_
      | _ => rfl

structure Joins (id : ChannelId) (h h' : Hub) : Prop where
  attached : h'.attached = h.attached.set (h.channel id).wire id
  apart : Apart id h h'
  opened : (h'.channel id).state ≠ .closed
  first : h.state = .idle → h'.state = .connecting ∧ h'.phase = .handshake ∧ h'.accepting = true
  later : h.state ≠ .idle → h'.state = h.state ∧ h'.phase = h.phase ∧
    h'.accepting = h.accepting ∧ ∀ command ∈ h.queue, command ∈ h'.queue
  refused : h.state = .closed → (h'.channel id).state = .errored

theorem connect_attaches
    (closed : (h.channel id).state ≠ .connecting ∧ (h.channel id).state ≠ .connected) :
    h.connect id = (h.modify id fun c => { c with state := .connecting }).attach id := by
  unfold connect
  cases state : (h.channel id).state with
  | connecting => exact absurd state closed.1
  | connected => exact absurd state closed.2
  | _ => rfl

theorem joins_connect (below : id < h.channels.length)
    (closed : (h.channel id).state ≠ .connecting ∧ (h.channel id).state ≠ .connected) :
    Joins id h (h.connect id) := by
  let h₁ := h.modify id fun c => { c with state := .connecting }
  have turned : Turns id (fun _ => .connecting) h h₁ := turns_modify below _ (fun _ => rfl) rfl
  have below₁ : id < h₁.channels.length := Nat.lt_of_lt_of_le below turned.count
  have wire : (h₁.channel id).wire = (h.channel id).wire := turned.wires id below
  have connects : h.connect id = h₁.attach id := connect_attaches closed
  have attached : (h₁.withAttached id).attached = h.attached.set (h.channel id).wire id := by
    rw [← wire]
    rfl
  rw [connects]
  by_cases idle : h.state = .idle
  · have idle₁ : h₁.state = .idle := idle
    rw [attach_idle idle₁]
    have open_ : (h₁.channel id).state ≠ .closed := by
      rw [turned.turned]
      exact nofun
    refine ⟨attached, ⟨turned.count, turned.wires, turned.others⟩, open_,
      fun _ => ⟨rfl, rfl, rfl⟩, fun started => ?_, ?_⟩
    · exact absurd idle started
    · rw [idle]
      exact nofun
  · obtain ⟨g, closed_iff, refused, turns⟩ := turns_attach below₁ idle
    have turned' : ((h₁.attach id).channel id).state = g .connecting :=
      turns.turned.trans (congrArg g turned.turned)
    have apart : Apart id h₁ (h₁.attach id) := ⟨turns.count, turns.wires, turns.others⟩
    refine ⟨turns.attached.trans attached, turned.apart.trans apart, ?_, ?_, ?_, ?_⟩
    · rw [turned']
      exact fun same => nomatch (closed_iff _).mp same
    · exact fun was => absurd was idle
    · exact fun _ => ⟨turns.state, turns.phase, turns.accepting, turns.queue⟩
    · intro shut
      rw [turned']
      exact refused shut _ nofun

theorem detach_cases (h : Hub) (id : ChannelId) :
    (h.attached.find? (h.channel id).wire ≠ some id ∧ h.detach id = h) ∨
      (h.attached.find? (h.channel id).wire = some id ∧ h.accepting = true ∧
        h.attached.erase (h.channel id).wire = [] ∧
        h.detach id =
          { h with
            attached := []
            confirmed := h.confirmed.erase (h.channel id).wire
            queue := h.queue ++ [.shutdown]
            accepting := false
            state := .closed }) ∨
      (h.attached.find? (h.channel id).wire = some id ∧
        (h.accepting = true → h.attached.erase (h.channel id).wire ≠ []) ∧
        h.detach id =
          { h with
            attached := h.attached.erase (h.channel id).wire
            confirmed := h.confirmed.erase (h.channel id).wire }) := by
  unfold detach
  dsimp only
  by_cases attached : h.attached.find? (h.channel id).wire = some id
  · rw [if_neg fun different => different attached]
    by_cases last : (h.attached.erase (h.channel id).wire).isEmpty = true ∧ h.accepting = true
    · refine .inr (.inl ⟨attached, last.2, List.isEmpty_iff.mp last.1, ?_⟩)
      rw [if_pos last]
      simp only [shutDown, enqueue, last.2, if_true, List.isEmpty_iff.mp last.1]
    · refine .inr (.inr ⟨attached, fun accepting none_left => ?_, if_neg last⟩)
      exact last ⟨List.isEmpty_iff.mpr none_left, accepting⟩
  · exact .inl ⟨attached, if_pos attached⟩

/-! ### The end of the loop -/

/-- Tells a channel that the loop has ended, with the failure of the handshake if there is one. -/
def tell (failure : Option String) (h : Hub) (id : ChannelId) : Hub :=
  if (h.channel id).dropped then h
  else match failure with
    | some message => h.onConnectError id message
    | none => h.onClosed id "transport close"

/-- The hub whose loop has ended, before anybody is told. -/
def closing (h : Hub) : Hub :=
  { h with state := .closed, phase := .ended, accepting := false, confirmed := [], attached := [] }

theorem finish_eq (h : Hub) (failure : Option String) :
    h.finish failure = (h.attached.map Prod.snd).foldl (tell failure) h.closing :=
  rfl

theorem keeps_tell (below : id < h.channels.length) (failure : Option String) :
    Keeps h (tell failure h id) := by
  unfold tell
  split
  · exact .refl h
  · cases failure with
    | some message => exact (turns_onConnectError below message).toKeeps
    | none => exact (turns_onClosed below _).toKeeps

theorem keeps_tellAll (failure : Option String) (ids : List ChannelId)
    (below : ∀ id ∈ ids, id < h.channels.length) : Keeps h (ids.foldl (tell failure) h) := by
  induction ids generalizing h with
  | nil => exact .refl h
  | cons id ids ih =>
    have told := keeps_tell (below id List.mem_cons_self) failure
    exact told.trans (ih fun other member =>
      Nat.lt_of_lt_of_le (below other (List.mem_cons_of_mem _ member)) told.count)

end Hub

end LiveSession
