import LiveSession.Proofs.Connection.Farewell

/-!
# Channels that were displaced

A channel has the place of its namespace until another one attaches under it, and is not told that it
has lost it. When such a channel is disconnected or dropped, the connection is the other one's:
`displaced_leaves` says what of it stays as it is.
-/

namespace LiveSession

namespace Hub

/-- In these events `newer` attaches under the namespace of `older`, which does not attach from then
on. -/
def Displaces (h : Hub) (older newer : ChannelId) (events : List HubEvent) : Prop :=
  older ≠ newer ∧
    ((h.run events).channel newer).wire = ((h.run events).channel older).wire ∧
    ∃ before after, events = before ++ .connect newer :: after ∧ (h.run before).joins newer = true ∧
      ∀ early late, after = early ++ .connect older :: late →
        (h.run (before ++ .connect newer :: early)).joins older = false

/-- Whether a channel takes its leave of the server when it is disconnected. -/
def takesLeave (h : Hub) (id : ChannelId) : Bool :=
  h.isHeld id && (h.channel id).state = .connected && h.accepting

/-- The connection stays as it is, its queue apart, and so do all other channels. -/
structure Spares (id : ChannelId) (h h' : Hub) : Prop extends Only id h h' where
  attached : h'.attached = h.attached
  confirmed : h'.confirmed = h.confirmed
  state : h'.state = h.state
  phase : h'.phase = h.phase
  accepting : h'.accepting = h.accepting

variable {h h' h'' : Hub} {id other older newer : ChannelId} {wire : String} {seats : Seats}
  {events : List HubEvent}

namespace Spares

theorem refl (id : ChannelId) (h : Hub) : Spares id h h :=
  ⟨only_of_channels rfl, rfl, rfl, rfl, rfl, rfl⟩

theorem trans (s₁ : Spares id h h') (s₂ : Spares id h' h'') : Spares id h h'' where
  toOnly := s₁.toOnly.trans s₂.toOnly
  attached := s₂.attached.trans s₁.attached
  confirmed := s₂.confirmed.trans s₁.confirmed
  state := s₂.state.trans s₁.state
  phase := s₂.phase.trans s₁.phase
  accepting := s₂.accepting.trans s₁.accepting

theorem modify (h : Hub) (id : ChannelId) (f : HubChannel → HubChannel)
    (ns : ∀ c, (f c).ns = c.ns)
    (listeners : ∀ c, c.listeners.Ordered → (f c).listeners.Ordered) : Spares id h (h.modify id f) :=
  ⟨only_modify h id f ns listeners, rfl, rfl, rfl, rfl, rfl⟩

theorem dispatch (h : Hub) (id : ChannelId) (event : String) (args : List Json) :
    Spares id h (h.dispatch id event args) :=
  .modify h id _ (fun _ => rfl) fun _ ordered => ordered

theorem mark (h : Hub) (id : ChannelId) (state : ChannelState) :
    Spares id h (h.modify id fun c => { c with state, buffer := [] }) :=
  .modify h id _ (fun _ => rfl) fun _ ordered => ordered

theorem enqueue (h : Hub) (id : ChannelId) (command : Command) : Spares id h (h.enqueue command) := by
  unfold Hub.enqueue
  split
  · exact ⟨only_of_channels rfl, rfl, rfl, rfl, rfl, rfl⟩
  · exact .refl id h

theorem detach (spares : Spares id h h') (lost : h.attached.find? (h.channel id).wire ≠ some id) :
    h'.detach id = h' := by
  refine if_pos ?_
  rw [spares.attached, spares.wire]
  exact lost

end Spares

/-! ### A channel without a place -/

theorem drop_lost (lost : h.attached.find? (h.channel id).wire ≠ some id) :
    Spares id h (h.drop id) ∧ (h.drop id).queue = h.queue := by
  have dropped := Spares.modify h id (fun c => { c with dropped := true }) (fun _ => rfl)
    fun _ ordered => ordered
  unfold drop
  dsimp only
  split
  · exact ⟨.refl id h, rfl⟩
  · rw [dropped.detach lost, ite_self]
    exact ⟨dropped, rfl⟩

theorem disconnect_lost (lost : h.attached.find? (h.channel id).wire ≠ some id) :
    Spares id h (h.disconnect id) ∧
      (h.disconnect id).queue = h.queue ++
        if (h.channel id).state = .connected ∧ h.accepting then
          [.send (.message (.disconnect (h.channel id).wire))] else [] := by
  let h₁ := h.modify id fun c => { c with state := .closed, buffer := [] }
  have marked : Spares id h h₁ := .mark h id .closed
  unfold disconnect
  dsimp only
  split
  · rename_i closed
    refine ⟨.refl id h, ?_⟩
    rw [closed, if_neg (fun both => nomatch both.1), List.append_nil]
  · split
    · rename_i connected
      have sent := marked.trans
        (.enqueue h₁ id (.send (.message (.disconnect (h.channel id).wire))))
      rw [sent.detach lost]
      refine ⟨sent.trans (.dispatch _ id _ _), ?_⟩
      simp only [connected, true_and]
      exact queue_enqueue h₁ _
    · rename_i away
      rw [marked.detach lost]
      refine ⟨marked, ?_⟩
      rw [if_neg (fun both => away both.1), List.append_nil]
      rfl

theorem step_drop_lost (lost : h.attached.find? (h.channel id).wire ≠ some id) :
    Spares id h (h.step (.drop id)) ∧ (h.step (.drop id)).queue = h.queue := by
  show Spares id h (if h.isHeld id then h.drop id else h) ∧ _
  unfold step
  dsimp only
  split
  · exact drop_lost lost
  · exact ⟨.refl id h, rfl⟩

theorem step_disconnect_lost (lost : h.attached.find? (h.channel id).wire ≠ some id) :
    Spares id h (h.step (.disconnect id)) ∧
      (h.step (.disconnect id)).queue = h.queue ++
        if h.takesLeave id then [.send (.message (.disconnect (h.channel id).wire))] else [] := by
  unfold step takesLeave
  dsimp only
  split
  · rename_i held
    simpa [held] using disconnect_lost lost
  · rename_i gone
    exact ⟨.refl id h, by simp [gone]⟩

/-! ### Losing a place -/

theorem run_append (h : Hub) (before after : List HubEvent) :
    h.run (before ++ after) = (h.run before).run after :=
  List.foldl_append

theorem seating_append (h : Hub) (seats : Seats) (before after : List HubEvent) :
    h.seating seats (before ++ after) = (h.run before).seating (h.seating seats before) after := by
  induction before generalizing h seats with
  | nil => rfl
  | cons event before ih => exact ih (h.step event) (h.seat seats event)

theorem wire_run (below : id < h.channels.length) (events : List HubEvent) :
    ((h.run events).channel id).wire = (h.channel id).wire := by
  induction events generalizing h with
  | nil => rfl
  | cons event events ih =>
    have moved := wire_move below (.event event)
    exact (ih moved.1).trans moved.2

theorem lost_seat (lost : seats.find? wire ≠ some id) {event : HubEvent}
    (away : event = .connect id → h.joins id = false) :
    (h.seat seats event).find? wire ≠ some id := by
  cases event with
  | connect other =>
    show (if h.joins other then seats.set (h.channel other).wire other else seats).find? wire ≠ _
    split
    · rename_i joins
      have different : other ≠ id := by
        rintro rfl
        rw [away rfl] at joins
        cases joins
      by_cases same : wire = (h.channel other).wire
      · rw [same, Entries.find?_set_self]
        exact fun one => different (Option.some.inj one)
      · rw [Entries.find?_set_other _ _ same]
        exact lost
    · exact lost
  | _ => exact lost

theorem lost_seating (lost : seats.find? wire ≠ some id)
    (away : ∀ early late, events = early ++ .connect id :: late → (h.run early).joins id = false) :
    (h.seating seats events).find? wire ≠ some id := by
  induction events generalizing h seats with
  | nil => exact lost
  | cons event events ih =>
    refine ih (lost_seat lost fun same => ?_) fun early late split => ?_
    · exact away [] events (by rw [same]; rfl)
    · exact away (event :: early) late (by rw [split]; rfl)

/-- A channel that has attached just now displaces all others of its namespace. -/
theorem Displaces.of_last {before : List HubEvent} (different : older ≠ newer)
    (joins : (h.run before).joins newer = true)
    (wire : ((h.run (before ++ [.connect newer])).channel newer).wire =
      ((h.run (before ++ [.connect newer])).channel older).wire) :
    Displaces h older newer (before ++ [.connect newer]) :=
  ⟨different, wire, before, [], rfl, joins, fun early _ split => by cases early <;> cases split⟩

theorem Displaces.lost (displaces : Displaces h older newer events) :
    (h.seating seats events).find? ((h.run events).channel older).wire ≠ some older := by
  obtain ⟨different, same, before, after, rfl, joins, away⟩ := displaces
  have below : newer < (h.run before).channels.length :=
    Attended.lt_of_isHeld (joins_iff.mp joins).1
  have wire : ((h.run (before ++ .connect newer :: after)).channel older).wire =
      ((h.run before).channel newer).wire := by
    rw [← same, run_append]
    exact wire_run below _
  have lost : ((h.run before).seat (h.seating seats before) (.connect newer)).find?
      ((h.run before).channel newer).wire ≠ some older := by
    rw [seat, if_pos joins, Entries.find?_set_self]
    exact fun one => different (Option.some.inj one).symm
  rw [wire, seating_append]
  refine lost_seating (h := (h.run before).step (.connect newer)) lost fun early late split => ?_
  have none_ := away early late split
  rwa [run_append] at none_

/-- Once another channel has attached under the namespace of a channel, dropping that channel leaves the
connection and all other channels as they are. Disconnecting it does so too, except that it tells the
server to disconnect the namespace if it was connected itself. -/
theorem displaced_leaves (url : Url) (cookie : Option String) (events : List HubEvent)
    (older newer : ChannelId) (displaces : Displaces { url, cookie } older newer events) :
    let h := run { url, cookie } events
    (Spares older h (h.step (.drop older)) ∧ (h.step (.drop older)).queue = h.queue) ∧
      Spares older h (h.step (.disconnect older)) ∧
      (h.step (.disconnect older)).queue = h.queue ++
        if h.takesLeave older then [.send (.message (.disconnect (h.channel newer).wire))] else [] := by
  intro h
  obtain ⟨-, seated⟩ := run_seated url cookie events
  have lost : h.attached.find? (h.channel older).wire ≠ some older := fun attached =>
    displaces.lost (seated.newest attached)
  have wire : (h.channel newer).wire = (h.channel older).wire := displaces.2.1
  rw [wire]
  exact ⟨step_drop_lost lost, step_disconnect_lost lost⟩

/-- Before the server has confirmed the namespace, nothing of the connection changes. -/
theorem displaced_leaves_waiting :
    let url : Url := { scheme := "ws", host := some (.domain "localhost"), path := .segments [""] }
    let events : List HubEvent := [.create "/chat", .create "/chat", .connect 0, .connect 1]
    let h := run { url } events
    Displaces { url } 0 1 events ∧ (h.channel 0).state = .connecting ∧
      (h.step (.disconnect 0)).attached = [("/chat", 1)] ∧
      (h.step (.disconnect 0)).queue = h.queue := by
  intro url events h
  have displaces : Displaces { url } 0 1 (events.take 3 ++ [.connect 1]) :=
    .of_last nofun (by decide +kernel) (by decide +kernel)
  obtain ⟨-, spares, queue⟩ := displaced_leaves url none events 0 1 displaces
  have stays : h.takesLeave 0 = false := by decide +kernel
  refine ⟨displaces, by decide +kernel, ?_, ?_⟩
  · exact spares.attached.trans (by decide +kernel)
  · rw [queue, stays]
    exact List.append_nil _

/-- Both channels are connected, the second one has attached last, and the first one is disconnected: the
server is told to disconnect the namespace of the second. -/
theorem not_left_alone_of_shared :
    let url : Url := { scheme := "ws", host := some (.domain "localhost"), path := .segments [""] }
    let h := run { url } shared
    let h' := h.step (.disconnect 0)
    Displaces { url } 0 1 shared ∧ (h'.channel 1).state = .connected ∧ h'.attached = [("/chat", 1)] ∧
      h'.queue = h.queue ++ [.send (.message (.disconnect "/chat"))] ∧ h'.queue ≠ h.queue := by
  intro url h h'
  have lost : h.attached.find? (h.channel 0).wire ≠ some 0 := by decide +kernel
  have takes : h.takesLeave 0 = true := by decide +kernel
  have wire : (h.channel 0).wire = "/chat" := by decide +kernel
  have queue := (step_disconnect_lost lost).2
  rw [takes, wire] at queue
  have displaces : Displaces { url } 0 1 (shared.take 6 ++ [.connect 1]) :=
    .of_last nofun (by decide +kernel) (by decide +kernel)
  refine ⟨displaces, by decide +kernel, by decide +kernel, queue, fun same => ?_⟩
  have longer := congrArg List.length (queue.symm.trans same)
  simp at longer

end Hub

end LiveSession
