import LiveSession.Connection.Multiplexer
import LiveSession.Proofs.Connection.Operations

/-!
# Reuse of connections

A hub that is closed stays closed, and no channel is opened on it any more. There is one exception:
until the loop comes to its end, it may still hear the server open the session, and then the hub is
open again. `closed_iff_not_reopened` says so of every run of a multiplexer.
-/

namespace LiveSession

namespace Hub

variable {h : Hub} {event : HubEvent}

/-- The server opens the session, and the loop hears of it. -/
def Opens (h : Hub) (event : HubEvent) : Prop :=
  h.phase = .running ∧ ∃ info, event = .receive (.opened info)

theorem isClosed_iff : h.isClosed = true ↔ h.state = .closed :=
  decide_eq_true_iff

/-! ### What a channel is told says nothing about the hub -/

theorem state_onConnected (h : Hub) (id : ChannelId) : (h.onConnected id).state = h.state := by
  unfold onConnected
  dsimp only
  split
  · rfl
  · exact (calm_dispatch _ _ _ _).state.trans (calm_sendEvents _ _ _).state

theorem state_onConnectError (h : Hub) (id : ChannelId) (message : String) :
    (h.onConnectError id message).state = h.state := by
  unfold onConnectError
  split <;> rfl

theorem state_onClosed (h : Hub) (id : ChannelId) (reason : String) :
    (h.onClosed id reason).state = h.state := by
  unfold onClosed
  split <;> rfl

theorem state_receivePacket (h : Hub) (p : SocketPacket) :
    (h.receivePacket p).state = h.state := by
  have noted : (h.note p).state = h.state := (calm_note h p).state
  unfold receivePacket hand
  dsimp only
  split
  · split
    · exact (state_onConnected _ _).trans noted
    · exact (state_onClosed _ _ _).trans noted
    · exact (state_onConnectError _ _ _).trans noted
    · split
      · exact (calm_onEvent _ _ _ _).state.trans noted
      · exact noted
    · exact noted
  · exact noted

theorem state_tellAll (failure : Option String) (ids : List ChannelId) (h : Hub) :
    (ids.foldl (tell failure) h).state = h.state := by
  induction ids generalizing h with
  | nil => rfl
  | cons id ids ih =>
    refine (ih _).trans ?_
    unfold tell
    split
    · rfl
    · cases failure with
      | some message => exact state_onConnectError h id message
      | none => exact state_onClosed h id _

theorem state_shutDown (h : Hub) : h.shutDown.state = h.state :=
  (calm_enqueue h _).state

/-! ### A closed hub -/

section Closed

variable (closed : h.state = .closed) (id : ChannelId)

include closed

theorem closed_detach : (h.detach id).state = .closed := by
  rcases h.detach_cases id with ⟨_, after⟩ | ⟨_, _, _, after⟩ | ⟨_, _, after⟩
  · rw [after]
    exact closed
  · rw [after]
  · rw [after]
    exact closed

theorem closed_connect : (h.connect id).state = .closed := by
  unfold connect
  split
  · exact closed
  · exact closed
  · have attaching : (h.modify id fun c => { c with state := .connecting }).state = .closed := closed
    rw [attach_closed attaching]
    exact (state_onConnectError _ _ _).trans closed

theorem closed_disconnect : (h.disconnect id).state = .closed := by
  unfold disconnect
  dsimp only
  split
  · exact closed
  · let h₁ := h.modify id fun c => { c with state := .closed, buffer := [] }
    have closed₁ : h₁.state = .closed := closed
    split
    · refine (calm_dispatch _ _ _ _).state.trans (closed_detach ?_ id)
      exact (calm_enqueue _ _).state.trans closed₁
    · exact closed_detach closed₁ id

theorem closed_drop : (h.drop id).state = .closed := by
  let h₁ := h.modify id fun c => { c with dropped := true }
  have closed₁ : h₁.state = .closed := closed
  unfold drop
  split
  · exact closed
  · dsimp only
    split
    · exact closed
    · exact closed_detach closed₁ id

end Closed

theorem state_opened (h : Hub) (info : OpenInfo) : (h.receive (.opened info)).1.state = .opened :=
  (calm_sendFrames _ _ _).state

theorem closed_receive (closed : h.state = .closed) {frame : EnginePacket}
    (other : ∀ info, frame ≠ .opened info) : (h.receive frame).1.state = .closed := by
  cases frame with
  | opened info => exact absurd rfl (other info)
  | close => exact (state_shutDown h).trans closed
  | message p => exact (state_receivePacket h p).trans closed
  | ping | pong | upgrade | noop => exact closed

/-- Nothing but an opened session ends the closing of a hub. -/
theorem closed_step_iff (closed : h.state = .closed) (event : HubEvent) :
    (h.step event).state = .closed ↔ ¬ h.Opens event := by
  by_cases opens : h.Opens event
  · obtain ⟨running, info, rfl⟩ := opens
    have opened : (h.step (.receive (.opened info))).state = .opened := by
      rw [step, if_pos running]
      exact state_opened h info
    rw [opened]
    exact ⟨nofun, fun none_opens => absurd ⟨running, info, rfl⟩ none_opens⟩
  · refine ⟨fun _ => opens, fun _ => ?_⟩
    unfold step
    cases event with
    | create ns => exact closed
    | listen id event | unlisten id event number =>
      dsimp only
      split <;> exact closed
    | connect id =>
      dsimp only
      split
      · exact closed_connect closed id
      · exact closed
    | disconnect id =>
      dsimp only
      split
      · exact closed_disconnect closed id
      · exact closed
    | emit id args =>
      dsimp only
      split
      · split
        · rename_i emitted
          exact (calm_emit emitted).state.trans closed
        · exact closed
      · exact closed
    | drop id =>
      dsimp only
      split
      · exact closed_drop closed id
      · exact closed
    | accepted =>
      dsimp only
      split <;> exact closed
    | receive frame =>
      dsimp only
      split
      · rename_i running
        exact closed_receive closed fun info same => opens ⟨running, info, same ▸ rfl⟩
      · exact closed
    | finish failure =>
      dsimp only
      split
      · rw [finish_eq]
        exact state_tellAll failure _ _
      · exact closed

end Hub

/-- What can happen on a multiplexer: a channel is opened, or there is an event on one of its
hubs. -/
inductive MultiplexerEvent where
  | openChannel (url : Url) (config : ChannelConfig)
  | event (hub : Nat) (event : HubEvent)

namespace Multiplexer

variable {m m' : Multiplexer} {i : Nat}

/-- The multiplexer after an event; a channel that is refused changes nothing. -/
def step (m : Multiplexer) : MultiplexerEvent → Multiplexer
  | .openChannel url config =>
    match m.openChannel url config with
    | .ok (m, _) => m
    | .error _ => m
  | .event i event => m.modify i fun h => h.step event

def run (m : Multiplexer) (events : List MultiplexerEvent) : Multiplexer :=
  events.foldl step m

/-- There is such a hub, and it is closed. -/
def IsShut (m : Multiplexer) (i : Nat) : Prop :=
  ∃ h, m.hub? i = some h ∧ h.isClosed = true

/-- The server opens the session of a hub. -/
def Opens (m : Multiplexer) (i : Nat) (event : MultiplexerEvent) : Prop :=
  ∃ h e, m.hub? i = some h ∧ event = .event i e ∧ h.Opens e

/-- The server opens the session of a hub at some time in a run. -/
def Reopens (i : Nat) : Multiplexer → List MultiplexerEvent → Prop
  | _, [] => False
  | m, event :: events => m.Opens i event ∨ Reopens i (m.step event) events

theorem hub?_modify_self (m : Multiplexer) (i : Nat) (f : Hub → Hub) :
    (m.modify i f).hub? i = (m.hub? i).map f := by
  unfold hub? modify
  rw [List.getElem?_modify]
  simp

theorem hub?_modify_other (m : Multiplexer) {i j : Nat} (other : j ≠ i) (f : Hub → Hub) :
    (m.modify j f).hub? i = m.hub? i := by
  unfold hub? modify
  rw [List.getElem?_modify]
  simp [other]

/-! ### Opening -/

theorem hubFor_cases (m : Multiplexer) (handshake : Url) (config : ChannelConfig) :
    (m.isUsable (m.hubFor handshake config).2 = true ∧ (m.hubFor handshake config).1 = m) ∨
      ((m.hubFor handshake config).2 = m.hubs.length ∧
        ∀ i < m.hubs.length, (m.hubFor handshake config).1.hub? i = m.hub? i) := by
  unfold hubFor
  dsimp only
  split
  · split
    · rename_i usable
      exact .inl ⟨(Bool.and_eq_true_iff.mp usable).2, rfl⟩
    · exact .inr ⟨rfl, fun i below => List.getElem?_append_left below⟩
  · exact .inr ⟨rfl, fun i below => List.getElem?_append_left below⟩

/-- The multiplexer with a channel opened on a hub, and the place of the channel. -/
def withChannel (m : Multiplexer) (i : Nat) (url : Url) (config : ChannelConfig) :
    Multiplexer × ChannelPlace :=
  let id := ((m.hub? i).map fun h => h.channels.length).getD 0
  let m := m.modify i fun h => h.create url.channelNamespace
  (if config.autoConnect then m.modify i fun h => h.connect id else m, { hub := i, id })

theorem openChannel_eq {url handshake : Url} (shaken : handshakeUrl url = .ok handshake)
    (m : Multiplexer) (config : ChannelConfig) :
    m.openChannel url config =
      .ok ((m.hubFor handshake config).1.withChannel (m.hubFor handshake config).2 url config) := by
  rw [openChannel, shaken]
  rfl

theorem hub?_withChannel (m : Multiplexer) {i j : Nat} (other : j ≠ i) (url : Url)
    (config : ChannelConfig) : (m.withChannel j url config).1.hub? i = m.hub? i := by
  unfold withChannel
  dsimp only
  split
  · exact (hub?_modify_other _ other _).trans (hub?_modify_other _ other _)
  · exact hub?_modify_other _ other _

/-- A channel is opened on no closed hub, and closed hubs stay as they are. -/
theorem openChannel_apart {url : Url} {config : ChannelConfig} {place : ChannelPlace}
    (opened : m.openChannel url config = .ok (m', place)) (shut : m.IsShut i) :
    place.hub ≠ i ∧ m'.hub? i = m.hub? i := by
  obtain ⟨h, found, closed⟩ := shut
  have below : i < m.hubs.length := (List.getElem?_eq_some_iff.mp found).1
  cases shaken : handshakeUrl url with
  | error e =>
    rw [openChannel, shaken] at opened
    cases opened
  | ok handshake =>
    rw [openChannel_eq shaken] at opened
    -- The hub of the channel is a new one or usable, so it is not this one.
    have apart : (m.hubFor handshake config).2 ≠ i ∧
        (m.hubFor handshake config).1.hub? i = m.hub? i := by
      rcases m.hubFor_cases handshake config with ⟨usable, same⟩ | ⟨new, kept⟩
      · refine ⟨fun this => ?_, by rw [same]⟩
        rw [this, isUsable, found, Option.any_some, closed] at usable
        cases usable
      · exact ⟨fun this => Nat.ne_of_gt below (new.symm.trans this), kept i below⟩
    have placed := Except.ok.inj opened
    have after : m' = _ := (congrArg Prod.fst placed).symm
    have hub : place.hub = _ := (congrArg (fun r => r.2.hub) placed).symm
    rw [after, hub]
    exact ⟨apart.1, (hub?_withChannel _ apart.1 url config).trans apart.2⟩

/-! ### Steps and runs -/

theorem shut_step_iff (shut : m.IsShut i) (event : MultiplexerEvent) :
    (m.step event).IsShut i ↔ ¬ m.Opens i event := by
  cases event with
  | openChannel url config =>
    refine ⟨fun _ => ?_, fun _ => ?_⟩
    · rintro ⟨_, _, _, same, _⟩
      cases same
    · unfold step
      dsimp only
      split
      · rename_i opened
        obtain ⟨h, found, closed⟩ := shut
        exact ⟨h, (openChannel_apart opened ⟨h, found, closed⟩).2.trans found, closed⟩
      · exact shut
  | event j e =>
    obtain ⟨h, found, closed⟩ := shut
    by_cases same : j = i
    · subst same
      have after : (m.step (.event j e)).hub? j = some (h.step e) := by
        rw [step, hub?_modify_self, found, Option.map_some]
      have opens_iff : m.Opens j (.event j e) ↔ h.Opens e := by
        constructor
        · rintro ⟨h', e', found', same, opens⟩
          rw [found] at found'
          cases found'
          cases same
          exact opens
        · exact fun opens => ⟨h, e, found, rfl, opens⟩
      rw [opens_iff, ← h.closed_step_iff (Hub.isClosed_iff.mp closed)]
      constructor
      · rintro ⟨h', found', closed'⟩
        rw [after] at found'
        cases found'
        exact Hub.isClosed_iff.mp closed'
      · exact fun closed' => ⟨_, after, Hub.isClosed_iff.mpr closed'⟩
    · refine ⟨fun _ => ?_, fun _ => ⟨h, (hub?_modify_other m same _).trans found, closed⟩⟩
      rintro ⟨_, _, _, this, _⟩
      cases this
      exact same rfl

/-- A hub that is closed stays closed through a run, and no channel is opened on it, unless the
server opens its session in the run; and then it is not closed any more. -/
theorem closed_iff_not_reopened (shut : m.IsShut i) (events : List MultiplexerEvent) :
    ((∀ n, (m.run (events.take n)).IsShut i) ↔ ¬ Reopens i m events) ∧
      (¬ Reopens i m events → ∀ url config m' place,
        (m.run events).openChannel url config = .ok (m', place) → place.hub ≠ i) := by
  have stays : (∀ n, (m.run (events.take n)).IsShut i) ↔ ¬ Reopens i m events := by
    induction events generalizing m with
    | nil => exact ⟨fun _ => nofun, fun _ n => by rw [List.take_nil]; exact shut⟩
    | cons event events ih =>
      constructor
      · rintro always (opens | later)
        · exact (shut_step_iff shut event).mp (always 1) opens
        · exact (ih (always 1)).mp (fun n => always (n + 1)) later
      · intro never n
        obtain ⟨now, later⟩ := not_or.mp never
        have next := (shut_step_iff shut event).mpr now
        cases n with
        | zero => exact shut
        | succ n => exact (ih next).mpr later n
  refine ⟨stays, fun never url config m' place opened => ?_⟩
  have still := stays.mpr never events.length
  rw [List.take_length] at still
  exact (openChannel_apart opened still).1

/-- A connection whose only channel was disconnected before the server opened the session: the hub is
closed, and its loop has not come to the shutdown. -/
def leftEarly : Multiplexer :=
  run {}
    [.openChannel { scheme := "http", host := some (.domain "localhost"), path := .segments [""] } {},
      .event 0 (.connect 0), .event 0 .accepted, .event 0 (.disconnect 0)]

theorem leftEarly_shut : leftEarly.IsShut 0 := by
  have closed : (leftEarly.hub? 0).any Hub.isClosed = true := by decide +kernel
  exact (Option.any_eq_true _ _).mp closed

/-- A channel of the same origin is opened elsewhere once the loop has ended. -/
theorem closed_iff_not_reopened_ended :
    let url : Url := { scheme := "http", host := some (.domain "localhost"), path := .segments [""] }
    ((leftEarly.run [.event 0 (.finish none)]).openChannel url {}).toOption.any
      (fun opened => opened.2.hub ≠ 0) = true := by
  intro url
  have never : ¬ Reopens 0 leftEarly [.event 0 (.finish none)] := by
    rintro (⟨_, _, _, same, _, _, opens⟩ | later)
    · cases same
      cases opens
    · exact later
  have elsewhere := (closed_iff_not_reopened leftEarly_shut _).2 never url {}
  have opened : ((leftEarly.run [.event 0 (.finish none)]).openChannel url {}).toOption.isSome =
      true := by decide +kernel
  cases result : (leftEarly.run [.event 0 (.finish none)]).openChannel url {} with
  | error e =>
    rw [result] at opened
    cases opened
  | ok placed => exact decide_eq_true (elsewhere placed.1 placed.2 result)

/-- The server opens the session after the only channel has left: the closed hub is open again, and
the next channel of the origin is opened on it. -/
theorem not_shut_of_reopened :
    let url : Url := { scheme := "http", host := some (.domain "localhost"), path := .segments [""] }
    let frame : EnginePacket := .opened { sid := "s", pingInterval := 25000, pingTimeout := 5000 }
    let m := leftEarly.run [.event 0 (.receive frame)]
    leftEarly.IsShut 0 ∧ ¬ m.IsShut 0 ∧
      (m.openChannel url { forceNew := false }).toOption.map Prod.snd = some { hub := 0, id := 1 } := by
  intro url frame m
  refine ⟨leftEarly_shut, ?_, by decide +kernel⟩
  rintro ⟨h, found, closed⟩
  have opened : (m.hub? 0).any Hub.isClosed = false := by decide +kernel
  rw [found, Option.any_some, closed] at opened
  cases opened

end Multiplexer

end LiveSession
