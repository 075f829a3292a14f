import LiveSession.Proofs.Connection.Operations
import LiveSession.Proofs.Entries

/-!
# Who still uses a connection

A connection is to be shut down when every channel that has attached to it was disconnected or
dropped. `Attendance` is what that depends on, told by the events alone: who has attached and not
left, and what the server has done that a hub takes no notice of. `Attended` relates it to the hub
through every run.
-/

namespace LiveSession

/-- What the events on a hub say about who uses it. -/
structure Attendance where
  /-- The channels that have attached and were neither disconnected nor dropped since. -/
  users : List ChannelId := []
  /-- The namespaces whose channel was disconnected by the server, and to which none has attached
  since. -/
  expelled : List String := []
  /-- The server has ended the session while the hub was in use. -/
  ended : Bool := false
  /-- The server has opened the session after the hub was told to shut down. -/
  reopened : Bool := false

namespace Attendance

def join (r : Attendance) (id : ChannelId) (wire : String) : Attendance :=
  { r with users := id :: r.users, expelled := r.expelled.filter fun other => other ≠ wire }

def leave (r : Attendance) (id : ChannelId) : Attendance :=
  { r with users := r.users.filter fun other => other ≠ id }

def expel (r : Attendance) (wire : String) : Attendance :=
  { r with expelled := wire :: r.expelled }

end Attendance

namespace Hub

/-- Whether the server disconnects a connected channel with this packet. -/
def expels (h : Hub) (p : SocketPacket) : Bool :=
  p.kind = .disconnect && (h.addressee? p.ns).any fun id => (h.channel id).state = .connected

/-- Whether a channel attaches when it is told to connect. -/
def joins (h : Hub) (id : ChannelId) : Bool :=
  h.isHeld id && (h.channel id).state ≠ .connecting && (h.channel id).state ≠ .connected

def attendFrame (h : Hub) (r : Attendance) : EnginePacket → Attendance
  | .message p => if h.expels p then r.expel p.ns else r
  | .close => if h.accepting then { r with ended := true } else r
  | .opened _ => if h.accepting then r else { r with reopened := true }
  | .ping _ | .pong _ | .upgrade | .noop => r

def attend (h : Hub) (r : Attendance) : HubEvent → Attendance
  | .connect id => if h.joins id then r.join id (h.channel id).wire else r
  | .disconnect id | .drop id => if h.isHeld id then r.leave id else r
  | .receive frame => if h.phase = .running then h.attendFrame r frame else r
  | .finish _ => if h.phase = .handshake ∨ h.phase = .running then { r with expelled := [] } else r
  | .create _ | .listen .. | .unlisten .. | .emit .. | .accepted => r

def attendance (h : Hub) (r : Attendance) : List HubEvent → Attendance
  | [] => r
  | event :: events => (h.step event).attendance (h.attend r event) events

variable {h h' : Hub} {r r' : Attendance} {id : ChannelId} {g : ChannelState → ChannelState}

/-! ### The attached channels -/

/-- Who is attached is in use or was disconnected by the server. -/
structure Roster (h : Hub) (r : Attendance) : Prop where
  names : h.attached.names.Nodup
  below : ∀ e ∈ h.attached, e.2 < h.channels.length
  own : ∀ e ∈ h.attached, (h.channel e.2).wire = e.1
  used : ∀ e ∈ h.attached, (h.channel e.2).state ≠ .closed → e.2 ∈ r.users
  expelled : ∀ wire, wire ∈ r.expelled ↔
    ∃ e ∈ h.attached, e.1 = wire ∧ (h.channel e.2).state = .closed

namespace Roster

theorem of_nobody (nobody : h.attached = []) (expelled : r.expelled = []) : Roster h r := by
  constructor
  case names =>
    rw [nobody]
    exact List.nodup_nil
  case expelled =>
    intro wire
    rw [nobody, expelled]
    exact ⟨nofun, fun ⟨_, member, _⟩ => nomatch member⟩
  all_goals
    rw [nobody]
    exact nofun

theorem of_same (roster : Roster h r) (attached : h'.attached = h.attached)
    (channels : h'.channels = h.channels) (users : r'.users = r.users)
    (expelled : r'.expelled = r.expelled) : Roster h' r' := by
  have channel (id : ChannelId) : h'.channel id = h.channel id := by
    unfold Hub.channel
    rw [channels]
  constructor
  case names =>
    rw [attached]
    exact roster.names
  case below =>
    rw [attached, channels]
    exact roster.below
  case own =>
    simp only [attached, channel]
    exact roster.own
  case used =>
    simp only [attached, channel, users]
    exact roster.used
  case expelled =>
    simp only [attached, channel, expelled]
    exact roster.expelled

theorem of_keeps (roster : Roster h r) (keeps : Keeps h h')
    (closed : ∀ e ∈ h.attached,
      (h'.channel e.2).state = .closed ↔ (h.channel e.2).state = .closed) : Roster h' r := by
  constructor
  case names =>
    rw [keeps.attached]
    exact roster.names
  case below =>
    rw [keeps.attached]
    exact fun e member => Nat.lt_of_lt_of_le (roster.below e member) keeps.count
  case own =>
    rw [keeps.attached]
    exact fun e member => (keeps.wires e.2 (roster.below e member)).trans (roster.own e member)
  case used =>
    rw [keeps.attached]
    exact fun e member open_ => roster.used e member fun was => open_ ((closed e member).mpr was)
  case expelled =>
    intro wire
    rw [roster.expelled, keeps.attached]
    constructor
    · rintro ⟨e, member, name, was⟩
      exact ⟨e, member, name, (closed e member).mpr was⟩
    · rintro ⟨e, member, name, now⟩
      exact ⟨e, member, name, (closed e member).mp now⟩

theorem calm (roster : Roster h r) (calm : Calm h h') : Roster h' r :=
  roster.of_keeps calm.toKeeps fun e member => by rw [calm.states e.2 (roster.below e member)]

theorem turns (roster : Roster h r) (turns : Turns id g h h')
    (closed : g (h.channel id).state = .closed ↔ (h.channel id).state = .closed) : Roster h' r := by
  refine roster.of_keeps turns.toKeeps fun e member => ?_
  by_cases same : e.2 = id
  · rw [same, turns.turned]
    exact closed
  · rw [turns.others e.2 (roster.below e member) same]

theorem find? (roster : Roster h r) {e : String × ChannelId} (member : e ∈ h.attached) :
    h.attached.find? e.1 = some e.2 :=
  Entries.find?_of_mem roster.names member

theorem expel (roster : Roster h r) {wire : String} (attached : h.attached.find? wire = some id)
    (turns : Turns id .closes h h') (connected : (h.channel id).state = .connected) :
    Roster h' (r.expel wire) := by
  have member : (wire, id) ∈ h.attached := Entries.mem_of_find? attached
  have closed : (h'.channel id).state = .closed := by
    rw [turns.turned, connected]
    rfl
  constructor
  case names =>
    rw [turns.attached]
    exact roster.names
  case below =>
    rw [turns.attached]
    exact fun e member => Nat.lt_of_lt_of_le (roster.below e member) turns.count
  case own =>
    rw [turns.attached]
    exact fun e member => (turns.wires e.2 (roster.below e member)).trans (roster.own e member)
  case used =>
    rw [turns.attached]
    intro e other open_
    refine roster.used e other fun was => open_ ?_
    by_cases same : e.2 = id
    · rw [same]
      exact closed
    · rw [turns.others e.2 (roster.below e other) same]
      exact was
  case expelled =>
    intro name
    rw [turns.attached]
    constructor
    · intro expelled
      rcases List.mem_cons.mp expelled with rfl | before
      · exact ⟨_, member, rfl, closed⟩
      · obtain ⟨e, other, rfl, was⟩ := (roster.expelled name).mp before
        have different : e.2 ≠ id := by
          rintro rfl
          rw [connected] at was
          cases was
        refine ⟨e, other, rfl, ?_⟩
        rw [turns.others e.2 (roster.below e other) different]
        exact was
    · rintro ⟨e, other, rfl, now⟩
      by_cases same : e.2 = id
      -- A channel has one place only, so a stale entry of its own is the one that is expelled.
      · have named : e.1 = wire :=
          (roster.own e other).symm.trans (same ▸ roster.own _ member)
        exact named ▸ List.mem_cons_self
      · rw [turns.others e.2 (roster.below e other) same] at now
        exact List.mem_cons_of_mem _ ((roster.expelled e.1).mpr ⟨e, other, rfl, now⟩)

theorem join (roster : Roster h r) (below : id < h.channels.length)
    (attached : h'.attached = h.attached.set (h.channel id).wire id) (apart : Apart id h h')
    (open_ : (h'.channel id).state ≠ .closed) : Roster h' (r.join id (h.channel id).wire) := by
  -- Whoever had the place of the namespace has lost it, so that channel is no longer listed, be it
  -- in use or closed.
  have mine : h'.attached.find? (h.channel id).wire = some id := by
    rw [attached]
    exact Entries.find?_set_self _ _ _
  have names : h'.attached.names.Nodup := by
    rw [attached]
    exact Entries.nodup_set roster.names _ _
  have member (e : String × ChannelId) (present : e ∈ h'.attached) :
      e = ((h.channel id).wire, id) ∨ e ∈ h.attached ∧ e.1 ≠ (h.channel id).wire := by
    by_cases same : e.1 = (h.channel id).wire
    · have one := Entries.find?_of_mem names present
      rw [same, mine] at one
      exact .inl (Prod.ext same (Option.some.inj one).symm)
    · rw [attached] at present
      refine .inr ⟨(Entries.mem_of_mem_set present).resolve_left fun new => same ?_, same⟩
      rw [new]
  have other (e : String × ChannelId) (present : e ∈ h.attached)
      (different : e.1 ≠ (h.channel id).wire) :
      (h'.channel e.2).state = (h.channel e.2).state := by
    refine apart.others e.2 (roster.below e present) fun same => different ?_
    rw [← roster.own e present, same]
  refine ⟨names, ?below, ?own, ?used, ?expelled⟩
  case below =>
    intro e present
    rcases member e present with rfl | ⟨old, _⟩
    · exact Nat.lt_of_lt_of_le below apart.count
    · exact Nat.lt_of_lt_of_le (roster.below e old) apart.count
  case own =>
    intro e present
    rcases member e present with rfl | ⟨old, _⟩
    · exact apart.wires id below
    · exact (apart.wires e.2 (roster.below e old)).trans (roster.own e old)
  case used =>
    intro e present now
    rcases member e present with rfl | ⟨old, different⟩
    · exact List.mem_cons_self
    · rw [other e old different] at now
      exact List.mem_cons_of_mem _ (roster.used e old now)
  case expelled =>
    intro wire
    show wire ∈ r.expelled.filter _ ↔ _
    rw [List.mem_filter, roster.expelled, decide_eq_true_eq]
    constructor
    · rintro ⟨⟨e, old, rfl, was⟩, different⟩
      refine ⟨e, ?_, rfl, ?_⟩
      · rw [attached]
        exact Entries.mem_set_of_mem old different
      · rw [other e old different]
        exact was
    · rintro ⟨e, present, rfl, now⟩
      rcases member e present with rfl | ⟨old, different⟩
      · exact absurd now open_
      · rw [other e old different] at now
        exact ⟨⟨e, old, rfl, now⟩, different⟩

theorem leave (roster : Roster h r)
    (attached : ∀ e, e ∈ h'.attached ↔ e ∈ h.attached ∧ e.2 ≠ id) (names : h'.attached.names.Nodup)
    (apart : Apart id h h') (open_ : (h.channel id).state ≠ .closed) : Roster h' (r.leave id) := by
  have other (e : String × ChannelId) (present : e ∈ h.attached) (different : e.2 ≠ id) :
      (h'.channel e.2).state = (h.channel e.2).state :=
    apart.others e.2 (roster.below e present) different
  refine ⟨names, ?below, ?own, ?used, ?expelled⟩
  case below =>
    intro e present
    exact Nat.lt_of_lt_of_le (roster.below e ((attached e).mp present).1) apart.count
  case own =>
    intro e present
    obtain ⟨old, _⟩ := (attached e).mp present
    exact (apart.wires e.2 (roster.below e old)).trans (roster.own e old)
  case used =>
    intro e present now
    obtain ⟨old, different⟩ := (attached e).mp present
    rw [other e old different] at now
    exact List.mem_filter.mpr ⟨roster.used e old now, decide_eq_true different⟩
  case expelled =>
    intro wire
    show wire ∈ r.expelled ↔ _
    rw [roster.expelled]
    constructor
    · rintro ⟨e, old, rfl, was⟩
      have different : e.2 ≠ id := by
        rintro rfl
        exact open_ was
      refine ⟨e, (attached e).mpr ⟨old, different⟩, rfl, ?_⟩
      rw [other e old different]
      exact was
    · rintro ⟨e, present, rfl, now⟩
      obtain ⟨old, different⟩ := (attached e).mp present
      rw [other e old different] at now
      exact ⟨e, old, rfl, now⟩

theorem forget (roster : Roster h r) (closed : (h.channel id).state = .closed) :
    Roster h (r.leave id) := by
  refine { roster with used := fun e member open_ => ?_ }
  refine List.mem_filter.mpr ⟨roster.used e member open_, decide_eq_true ?_⟩
  rintro rfl
  exact open_ closed

theorem place (roster : Roster h r) {e : String × ChannelId} (member : e ∈ h.attached)
    (attached : h.attached.find? (h.channel id).wire = some id) :
    e.1 ≠ (h.channel id).wire ↔ e.2 ≠ id := by
  constructor
  · rintro different rfl
    exact different (roster.own e member).symm
  · rintro different same
    have one := roster.find? member
    rw [same, attached] at one
    exact different (Option.some.inj one).symm

theorem erase (roster : Roster h r) (attached : h.attached.find? (h.channel id).wire = some id)
    (erased : h'.attached = h.attached.erase (h.channel id).wire) (apart : Apart id h h')
    (open_ : (h.channel id).state ≠ .closed) : Roster h' (r.leave id) := by
  refine roster.leave (fun e => ?_) ?_ apart open_
  · rw [erased, Entries.mem_erase]
    exact and_congr_right fun member => roster.place member attached
  · rw [erased]
    exact Entries.nodup_erase roster.names _

theorem absent (roster : Roster h r) {e : String × ChannelId} (member : e ∈ h.attached)
    (away : h.attached.find? (h.channel id).wire ≠ some id) : e.2 ≠ id := by
  rintro rfl
  rw [roster.own e member] at away
  exact away (roster.find? member)

end Roster

end Hub

end LiveSession
