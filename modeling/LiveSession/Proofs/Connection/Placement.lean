import LiveSession.Proofs.Connection.Reuse
import LiveSession.Proofs.Entries

/-!
# Which connection a channel is placed on

Channels of one origin are opened on a multiplexer one after the other, and in between there may be
anything else. As long as the connection that was opened last can be used, `places_eq` says where each
channel goes: the connections are numbered as they are started, and one is started by each channel
that forces it.
-/

namespace LiveSession

def configsOf (events : List MultiplexerEvent) : List ChannelConfig :=
  events.filterMap fun
    | .openChannel _ config => some config
    | .event .. => none

namespace Multiplexer

def places (m : Multiplexer) : List MultiplexerEvent → List Nat
  | [] => []
  | .openChannel url config :: events =>
    match m.openChannel url config with
    | .ok (m', place) => place.hub :: m'.places events
    | .error _ => m.places events
  | .event i event :: events => (m.step (.event i event)).places events

/-- A channel of an origin finds a connection to share, unless it forces a new one. -/
def Serves (m : Multiplexer) (handshake : Url) (config : ChannelConfig) : Prop :=
  config.forceNew = true ∨
    ∃ i, m.latest.find? handshake.text = some i ∧ m.isUsable i = true

/-- Every channel is opened for one origin, and finds a connection unless it forces a new one. -/
def Unbroken (handshake : Url) : Multiplexer → List MultiplexerEvent → Prop
  | _, [] => True
  | m, .openChannel url config :: events =>
    handshakeUrl url = .ok handshake ∧ m.Serves handshake config ∧
      Unbroken handshake (m.step (.openChannel url config)) events
  | m, .event i event :: events => Unbroken handshake (m.step (.event i event)) events

/-- The latest connection of an origin is the one that was started last. -/
def EndsWith (m : Multiplexer) (handshake : Url) : Prop :=
  ∀ i, m.latest.find? handshake.text = some i → i + 1 = m.hubs.length

variable {m m' : Multiplexer} {handshake url : Url} {config : ChannelConfig} {place : ChannelPlace}

theorem hubFor_forced (forced : config.forceNew = true) (m : Multiplexer) (handshake : Url) :
    m.hubFor handshake config =
      ({ hubs := m.hubs ++ [{ url := handshake, cookie := config.cookie }]
         latest := m.latest.set handshake.text m.hubs.length }, m.hubs.length) := by
  unfold hubFor
  dsimp only
  rw [forced]
  split <;> rfl

theorem hubFor_shared (shared : config.forceNew = false) {i : Nat}
    (latest : m.latest.find? handshake.text = some i) (usable : m.isUsable i = true) :
    m.hubFor handshake config = (m, i) := by
  unfold hubFor
  simp only [latest, shared, usable, Bool.not_false, Bool.and_self, if_true]

theorem length_withChannel (m : Multiplexer) (i : Nat) (url : Url) (config : ChannelConfig) :
    (m.withChannel i url config).1.hubs.length = m.hubs.length ∧
      (m.withChannel i url config).1.latest = m.latest := by
  unfold withChannel modify
  dsimp only
  split <;> simp

/-- A channel that forces a new connection gets the next number; any other one has the latest. -/
theorem openChannel_place (last : m.EndsWith handshake) (shaken : handshakeUrl url = .ok handshake)
    (serves : m.Serves handshake config) :
    ∃ m' place, m.openChannel url config = .ok (m', place) ∧ place.hub + 1 = m'.hubs.length ∧
      m'.hubs.length = m.hubs.length + (if config.forceNew then 1 else 0) ∧
      m'.EndsWith handshake := by
  have opened := openChannel_eq shaken m config
  obtain ⟨length, latest⟩ := (m.hubFor handshake config).1.length_withChannel
    (m.hubFor handshake config).2 url config
  have hub : ((m.hubFor handshake config).1.withChannel (m.hubFor handshake config).2 url config).2.hub =
      (m.hubFor handshake config).2 := rfl
  generalize (m.hubFor handshake config).1.withChannel (m.hubFor handshake config).2 url config =
    placed at opened length latest hub
  refine ⟨placed.1, placed.2, opened, ?_⟩
  rw [EndsWith, hub, length, latest]
  cases forced : config.forceNew with
  | true =>
    rw [hubFor_forced forced]
    refine ⟨by simp, by simp, fun i found => ?_⟩
    rw [Entries.find?_set_self] at found
    cases found
    simp
  | false =>
    obtain ⟨i, found, usable⟩ := serves.resolve_left (Bool.eq_false_iff.mp forced)
    rw [hubFor_shared forced found usable]
    exact ⟨last i found, rfl, last⟩

/-- The connections are numbered as they are started, and each channel is placed on the one that was
started last before or with it. -/
theorem places_eq (last : m.EndsWith handshake) (events : List MultiplexerEvent)
    (unbroken : Unbroken handshake m events) {k : Nat} (below : k < (configsOf events).length) :
    ∃ hub, (m.places events)[k]? = some hub ∧
      hub + 1 = m.hubs.length + ((configsOf events).take (k + 1)).countP ChannelConfig.forceNew := by
  induction events generalizing m k with
  | nil => cases below
  | cons event events ih =>
    cases event with
    | event i e =>
      have length : (m.step (.event i e)).hubs.length = m.hubs.length := List.length_modify ..
      have kept : (m.step (.event i e)).EndsWith handshake := by
        intro j found
        rw [length]
        exact last j found
      have later := ih kept unbroken below
      rw [length] at later
      exact later
    | openChannel url config =>
      obtain ⟨shaken, serves, rest⟩ := unbroken
      obtain ⟨m', place, opened, hub, length, last'⟩ := openChannel_place last shaken serves
      have after : m.step (.openChannel url config) = m' := by
        simp only [step, opened]
      have placed : m.places (.openChannel url config :: events) =
          place.hub :: m'.places events := by
        simp only [places, opened]
      rw [after] at rest
      rw [placed]
      show ∃ hub, _ ∧ hub + 1 = m.hubs.length + ((config :: configsOf events).take (k + 1)).countP _
      cases k with
      | zero =>
        refine ⟨place.hub, rfl, ?_⟩
        rw [hub, length, List.take_succ_cons, List.take_zero, List.countP_singleton]
      | succ k =>
        obtain ⟨hub', found, number⟩ := ih last' rest (Nat.lt_of_succ_lt_succ below)
        refine ⟨hub', found, ?_⟩
        rw [number, length, List.take_succ_cons, List.countP_cons]
        omega

end Multiplexer

end LiveSession
