import LiveSession.Client.Request
import LiveSession.Proofs.Channel.Listeners

/-!
# Effects on listeners, channels and pages

What the things that an action is made of do to the state of a client. A delivery adds to the queues
of the races that listen, and to nothing else but the history; closing a channel is a call and then
deliveries.
-/

namespace LiveSession

/-- The race after it has heard an occurrence so many times. -/
def OpenRace.hear (o : Occurrence) (times : Nat) (r : OpenRace) : OpenRace :=
  { r with queue := r.queue ++ List.replicate times o }

/-- The race without what it has collected. -/
def OpenRace.bare (r : OpenRace) : OpenRace :=
  { r with queue := [] }

theorem closings_append (channel : ChannelId) (log calls : List TransportCall) :
    closings channel (log ++ calls) = closings channel log + closings channel calls :=
  List.countP_append

theorem closings_disconnects (channel : ChannelId) (closed : List ChannelId) :
    closings channel (closed.map .disconnect) = closed.count channel := by
  unfold closings
  rw [List.count, List.countP_map]
  rfl

namespace Client

variable {ω : Type} {c c' c'' : Client ω} {channel : ChannelId}

/-- The races in flight, without what they have collected. -/
def wires (c : Client ω) : List OpenRace :=
  c.races.map OpenRace.bare

/-! ### Listeners -/

theorem listenersOn_withListeners (c : Client ω) (ls : Listeners RaceId)
    (below : channel < c.channels.length) (other : ChannelId) :
    (c.withListeners channel ls).listenersOn other =
      if other = channel then ls else c.listenersOn other := by
  unfold listenersOn withListeners
  by_cases same : other = channel
  · subst same
    rw [if_pos rfl, List.getElem?_set_self below, Option.getD_some]
  · rw [if_neg same, List.getElem?_set_ne (Ne.symm same)]

theorem listenersOn_install (c : Client ω) (below : channel < c.channels.length)
    (events : List String) (other : ChannelId) :
    (c.install channel events).1.listenersOn other =
      if other = channel then (c.listenersOn channel).addAll events c.started
      else c.listenersOn other :=
  listenersOn_withListeners c _ below other

theorem wires_install (c : Client ω) (channel : ChannelId) (events : List String) :
    (c.install channel events).1.wires = c.wires ++
      [{ id := c.started, channel,
         listeners := events.mapIdx fun i e => (e, (c.listenersOn channel).next + i) }] :=
  List.map_append

theorem release_eq (c : Client ω) (race : RaceId) :
    ∃ channels, channels.length = c.channels.length ∧
      c.release race = { c with channels, races := c.races.filter fun r => r.id ≠ race } := by
  unfold release
  split
  · rename_i absent
    refine ⟨c.channels, rfl, ?_⟩
    have kept : (c.races.filter fun r => r.id ≠ race) = c.races := by
      apply List.filter_eq_self.mpr
      intro r member
      simpa using List.find?_eq_none.mp absent r member
    rw [kept]
  · exact ⟨_, List.length_set, rfl⟩

theorem wires_release (c : Client ω) (race : RaceId) :
    (c.release race).wires = c.wires.filter fun r => r.id ≠ race := by
  obtain ⟨_, _, after⟩ := c.release_eq race
  rw [after]
  unfold wires
  rw [List.filter_map]
  rfl

theorem listenersOn_release (c : Client ω) {race : RaceId} {r : OpenRace}
    (found : c.races.find? (fun r => r.id = race) = some r) (below : r.channel < c.channels.length)
    (other : ChannelId) :
    (c.release race).listenersOn other =
      if other = r.channel then (c.listenersOn r.channel).removeAll r.listeners
      else c.listenersOn other := by
  unfold release
  rw [found]
  exact listenersOn_withListeners c _ below other

/-! ### Deliveries and closings -/

/-- Some channels are closed, channels dispatch events, and that is all. -/
structure Closes (closed : List ChannelId) (c c' : Client ω) : Prop where
  channels : c'.channels = c.channels
  wires : c'.wires = c.wires
  started : c'.started = c.started
  session : c'.session = c.session
  pages : c'.pages = c.pages
  log : c'.log = c.log ++ closed.map .disconnect
  history : ∃ heard : List (ChannelId × Occurrence),
    c'.history = c.history ++ heard.map fun h => .dispatched h.1 h.2

theorem Closes.refl (c : Client ω) : Closes [] c c :=
  ⟨rfl, rfl, rfl, rfl, rfl, (List.append_nil _).symm, [], (List.append_nil _).symm⟩

theorem Closes.trans {closed closed' : List ChannelId} (h₁ : Closes closed c c')
    (h₂ : Closes closed' c' c'') : Closes (closed ++ closed') c c'' := by
  obtain ⟨heard, history⟩ := h₁.history
  obtain ⟨heard', history'⟩ := h₂.history
  refine ⟨h₂.channels.trans h₁.channels, h₂.wires.trans h₁.wires, h₂.started.trans h₁.started,
    h₂.session.trans h₁.session, h₂.pages.trans h₁.pages, ?_, heard ++ heard', ?_⟩
  · rw [h₂.log, h₁.log, List.map_append, List.append_assoc]
  · rw [history', history, List.map_append, List.append_assoc]

theorem collectAll_eq (o : Occurrence) (rs : List (Registration RaceId)) (c : Client ω) :
    rs.foldl (fun c r => c.collect o r.listener) c =
      { c with races := c.races.map fun r => r.hear o (rs.countP fun l => l.listener = r.id) } := by
  induction rs generalizing c with
  | nil => simp [OpenRace.hear]
  | cons l rs ih =>
    rw [List.foldl_cons, ih]
    simp only [collect, List.map_map]
    congr 1
    apply List.map_congr_left
    intro r _
    simp only [Function.comp, List.countP_cons, decide_eq_true_eq]
    by_cases own : r.id = l.listener
    · simp [OpenRace.hear, own, List.replicate_succ]
    · simp [OpenRace.hear, own, Ne.symm own]

variable [Transports ω]

/-- An occurrence goes into the queue of a race as often as it listens for the event. -/
theorem deliver_eq (c : Client ω) (channel : ChannelId) (s : Signal) :
    c.deliver channel s =
      { c with
        history := c.history ++ [.dispatched channel ⟨s.event, s.args, c.now⟩]
        races := c.races.map fun r => r.hear ⟨s.event, s.args, c.now⟩
          (((c.listenersOn channel).on s.event).countP fun l => l.listener = r.id) } := by
  unfold deliver
  exact collectAll_eq _ _ _

theorem closes_deliver (c : Client ω) (channel : ChannelId) (s : Signal) :
    Closes [] c (c.deliver channel s) := by
  rw [deliver_eq]
  refine ⟨rfl, ?_, rfl, rfl, rfl, (List.append_nil _).symm, [(channel, ⟨s.event, s.args, c.now⟩)],
    rfl⟩
  show (c.races.map _).map OpenRace.bare = c.races.map OpenRace.bare
  rw [List.map_map]
  rfl

theorem closes_deliverAll (channel : ChannelId) (signals : List Signal) (c : Client ω) :
    Closes [] c (deliverAll channel signals c) := by
  induction signals generalizing c with
  | nil => exact .refl c
  | cons s signals ih => exact (closes_deliver c channel s).trans (ih (c.deliver channel s))

theorem closes_disconnect (c : Client ω) (channel : ChannelId) :
    Closes [channel] c (c.disconnect channel) := by
  have called : Closes [channel] c
      { c.logged (.disconnect channel) with
        world := (Transports.disconnect channel c.world).1 } :=
    ⟨rfl, rfl, rfl, rfl, rfl, rfl, [], (List.append_nil _).symm⟩
  exact called.trans (closes_deliverAll channel _ _)

theorem closes_disconnectAll (channels : List SocketChannel) (c : Client ω) :
    Closes (channels.map SocketChannel.handle) c (c.disconnectAll channels) := by
  induction channels generalizing c with
  | nil => exact .refl c
  | cons ch channels ih => exact (closes_disconnect c ch.handle).trans (ih (c.disconnect ch.handle))

theorem closes_unloadPage (c : Client ω) :
    Closes (c.session.channels.map SocketChannel.handle)
      { c with session := c.session.unload } c.unloadPage :=
  closes_disconnectAll _ _

theorem closes_loadPage (c : Client ω) (response : HttpResponse) :
    Closes (c.session.channels.map SocketChannel.handle)
      { c with
        session := c.session.replacePage (Page.ofResponse c.pages response)
        pages := c.pages + 1 }
      (c.loadPage response) :=
  closes_disconnectAll _ _

end Client

end LiveSession
