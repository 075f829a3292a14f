import LiveSession.Proofs.Client.Wiring

/-!
# Listeners and the actions that they belong to

What is registered on a channel, told by action: one listener of a watch, two of an attempt to
connect, three of an attempt that a watch is to follow. An action removes no listener of another
one, and once it has ended it has none.
-/

namespace LiveSession

/-- The listeners on a channel of what waits: their events, and the races that they feed. -/
def Job.listeners (channel : ChannelId) : Job → List (String × RaceId)
  | .request .. | .crawl _ => []
  | .connect p race _ _ none =>
    if p.channel.handle = channel then [(connectEvent, race), (connectErrorEvent, race)] else []
  | .connect p race _ _ (some w) =>
    if p.channel.handle = channel then
      [(connectEvent, race), (connectErrorEvent, race), (w.event, w.race)]
    else []
  | .watch watched w _ => if watched = channel then [(w.event, w.race)] else []

def Flight.listeners (channel : ChannelId) : Flight → List (String × RaceId)
  | .action job => job.listeners channel
  | .script run =>
    match run.phase with
    | .delay .. => []
    | .act job => job.listeners channel
  | .actionEnded .. | .scriptEnded .. => []

def Subscription.listeners (s : Subscription) : List (String × RaceId) :=
  s.events.map fun e => (e, s.race)

def listenersOf (channel : ChannelId) (ss : List Subscription) : List (String × RaceId) :=
  (ss.filter fun s => s.channel = channel).flatMap Subscription.listeners

def Tab.guestListeners {ω : Type} (t : Tab ω) (channel : ChannelId) : List (String × RaceId) :=
  listenersOf channel t.guests

theorem listenersOf_append (channel : ChannelId) (ss ss' : List Subscription) :
    listenersOf channel (ss ++ ss') = listenersOf channel ss ++ listenersOf channel ss' := by
  unfold listenersOf
  rw [List.filter_append, List.flatMap_append]

theorem listenersOf_perm {ss ss' : List Subscription} (perm : ss.Perm ss') (channel : ChannelId) :
    (listenersOf channel ss).Perm (listenersOf channel ss') :=
  (perm.filter _).flatMap_right _

theorem mem_listenersOf {channel : ChannelId} {ss : List Subscription} {e : String}
    {race : RaceId} :
    (e, race) ∈ listenersOf channel ss ↔
      ∃ s ∈ ss, s.channel = channel ∧ s.race = race ∧ e ∈ s.events := by
  unfold listenersOf Subscription.listeners
  constructor
  · intro member
    obtain ⟨s, present, listens⟩ := List.mem_flatMap.mp member
    obtain ⟨own, on⟩ := List.mem_filter.mp present
    obtain ⟨_, event, same⟩ := List.mem_map.mp listens
    cases same
    exact ⟨s, own, of_decide_eq_true on, rfl, event⟩
  · rintro ⟨s, own, on, rfl, event⟩
    exact List.mem_flatMap.mpr ⟨s, List.mem_filter.mpr ⟨own, decide_eq_true on⟩,
      List.mem_map.mpr ⟨e, event, rfl⟩⟩

theorem Job.listeners_eq (channel : ChannelId) (job : Job) :
    job.listeners channel = listenersOf channel (job.held.filterMap Held.subscription?) := by
  cases job with
  | request | crawl => rfl
  | connect p race limit deadline next =>
    cases next with
    | none =>
      show listeners channel _ = listenersOf channel [p.subscription race]
      by_cases own : p.channel.handle = channel <;>
        simp [listeners, listenersOf, Subscription.listeners, PendingChannel.subscription, own]
    | some w =>
      show listeners channel _ =
        listenersOf channel [p.subscription race, w.subscription p.channel.handle]
      by_cases own : p.channel.handle = channel <;>
        simp [listeners, listenersOf, Subscription.listeners, PendingChannel.subscription,
          Watch.subscription, own]
  | watch watched w deadline =>
    show listeners channel _ = listenersOf channel [w.subscription watched]
    by_cases own : watched = channel <;>
      simp [listeners, listenersOf, Subscription.listeners, Watch.subscription, own]

theorem Flight.listeners_eq (channel : ChannelId) (f : Flight) :
    f.listeners channel = listenersOf channel (f.held.filterMap Held.subscription?) := by
  cases f with
  | action job => exact job.listeners_eq channel
  | script run =>
    cases phase : run.phase with
    | delay action due =>
      simp only [listeners, held, ScriptRun.held, phase]
      rfl
    | act job =>
      simp only [listeners, held, ScriptRun.held, phase]
      exact job.listeners_eq channel
  | _ => rfl

theorem Flight.mem_listeners {channel : ChannelId} {f : Flight} {e : String} {race : RaceId} :
    (e, race) ∈ f.listeners channel ↔
      ∃ s, .listeners s ∈ f.held ∧ s.channel = channel ∧ s.race = race ∧ e ∈ s.events := by
  rw [listeners_eq, mem_listenersOf]
  constructor
  · rintro ⟨s, own, rest⟩
    obtain ⟨h, holds, same⟩ := List.mem_filterMap.mp own
    cases h with
    | listeners s' =>
      cases same
      exact ⟨s, holds, rest⟩
    | channel p => cases same
  · rintro ⟨s, holds, rest⟩
    exact ⟨s, List.mem_filterMap.mpr ⟨_, holds, rfl⟩, rest⟩

namespace Tab

variable {ω : Type}

theorem listenersOf_held (t : Tab ω) (channel : ChannelId) :
    listenersOf channel (t.held.filterMap Held.subscription?) =
      t.flights.flatMap (Flight.listeners channel) ++ t.guestListeners channel := by
  have guests (ss : List Subscription) :
      (ss.map Held.listeners).filterMap Held.subscription? = ss := by
    rw [List.filterMap_map]
    exact List.filterMap_some
  have flights (fs : List Flight) :
      listenersOf channel ((fs.flatMap Flight.held).filterMap Held.subscription?) =
        fs.flatMap (Flight.listeners channel) := by
    induction fs with
    | nil => rfl
    | cons f fs ih =>
      rw [List.flatMap_cons, List.filterMap_append, listenersOf_append, ih, ← f.listeners_eq,
        List.flatMap_cons]
  unfold held
  rw [List.filterMap_append, listenersOf_append, flights, guests]
  rfl

variable [Transports ω] {t : Tab ω} {event : TabEvent ω} {flight : Nat} {race : RaceId}

theorem Reachable.entries_perm (reachable : Reachable t) (channel : ChannelId) :
    ((t.client.listenersOn channel).entries.map fun l => (l.event, l.listener)).Perm
      (t.flights.flatMap (Flight.listeners channel) ++ t.guestListeners channel) := by
  have wired := reachable.wired
  rw [← listenersOf_held, wired.registered]
  refine List.Perm.trans (.of_eq ?_) (listenersOf_perm wired.held channel)
  unfold listenersOf
  rw [List.filter_map, List.flatMap_map, List.map_flatMap]
  apply List.flatMap_congr
  intro r _
  unfold OpenRace.registrations Subscription.listeners OpenRace.subscription
  rw [List.map_map, List.map_map]
  rfl

/-! ### Who has installed a listener -/

theorem started_le_step (t : Tab ω) (event : TabEvent ω) :
    t.client.started ≤ (t.step event).client.started := by
  rcases t.step_cases event with ⟨world, today, rfl⟩ | ⟨_, _, _, acts, _⟩
  · exact Nat.le_refl _
  · exact acts.started_le

theorem mem_guests_step {s : Subscription} (present : s ∈ (t.step event).guests) :
    s ∈ t.guests ∨ t.client.started ≤ s.race := by
  cases event with
  | poll flight =>
    have moves : t.subject (.poll flight) = some flight := rfl
    exact .inl (guests_step moves ▸ present)
  | listen channel e =>
    unfold step listen at present
    dsimp only at present
    split at present
    · rcases List.mem_append.mp present with old | new
      · exact .inl old
      · rw [List.mem_singleton.mp new]
        exact .inr (Nat.le_refl _)
    · exact .inl present
  | unlisten guest =>
    unfold step unlisten at present
    dsimp only at present
    split at present
    · exact .inl (List.mem_of_mem_eraseIdx present)
    · exact .inl present
  | _ => exact .inl present

/-- A race of one flight, which nobody else holds. -/
structure Owned (t : Tab ω) (flight : Nat) (race : RaceId) : Prop where
  started : race < t.client.started
  flights : ∀ other s, .listeners s ∈ t.heldBy other → s.race = race → other = flight
  guests : ∀ s ∈ t.guests, s.race ≠ race

theorem Owned.step (owned : Owned t flight race) (event : TabEvent ω) :
    Owned (t.step event) flight race := by
  refine ⟨Nat.lt_of_lt_of_le owned.started (started_le_step t event), ?_, ?_⟩
  · intro other s holds same
    by_cases moves : t.subject event = some other
    · rcases (flight_acts moves).held_or_fresh holds with old | new
      · exact owned.flights other s old same
      · exact absurd same (Nat.ne_of_gt (Nat.lt_of_lt_of_le owned.started new))
    · rw [heldBy_step_other moves] at holds
      exact owned.flights other s holds same
  · intro s present
    rcases mem_guests_step present with old | new
    · exact owned.guests s old
    · exact Nat.ne_of_gt (Nat.lt_of_lt_of_le owned.started new)

theorem Owned.run (owned : Owned t flight race) (events : List (TabEvent ω)) :
    Owned (t.run events) flight race := by
  induction events generalizing t with
  | nil => exact owned
  | cons event events ih => exact ih (owned.step event)

/-- The races that an event starts belong to the flight that it carries on. -/
theorem Reachable.owned (reachable : Reachable t) (moves : t.subject event = some flight)
    (first : t.client.started ≤ race) (last : race < (t.step event).client.started) :
    Owned (t.step event) flight race := by
  refine ⟨last, ?_, ?_⟩
  · intro other s holds same
    by_cases own : other = flight
    · exact own
    -- Another flight still holds what it held before, and all of that is older than the race.
    · have different : t.subject event ≠ some other := by
        rw [moves]
        exact fun same => own (Option.some.inj same).symm
      rw [heldBy_step_other different] at holds
      have old := reachable.wired.lt_started (mem_held_of_heldBy holds)
      exact absurd same (Nat.ne_of_lt (Nat.lt_of_lt_of_le old first))
  · intro s present
    rw [guests_step moves] at present
    have old := reachable.wired.lt_started (mem_held.mpr (.inr ⟨s, present, rfl⟩))
    exact Nat.ne_of_lt (Nat.lt_of_lt_of_le old first)

theorem Reachable.registered_owned (reachable : Reachable t) (owned : Owned t flight race)
    {channel : ChannelId} {l : Registration RaceId}
    (entry : l ∈ (t.client.listenersOn channel).entries) (own : l.listener = race) :
    ∃ f, t.flights[flight]? = some f ∧ (l.event, race) ∈ f.listeners channel := by
  subst own
  have member := (reachable.entries_perm channel).mem_iff.mp (List.mem_map_of_mem entry)
  rcases List.mem_append.mp member with flying | guest
  · obtain ⟨f, present, listens⟩ := List.mem_flatMap.mp flying
    obtain ⟨other, found⟩ := List.mem_iff_getElem?.mp present
    obtain ⟨s, holds, _, same, _⟩ := Flight.mem_listeners.mp listens
    have one := owned.flights other s (heldBy_of_flight found ▸ holds) same
    subst one
    exact ⟨f, found, listens⟩
  · obtain ⟨s, present, _, same, _⟩ := mem_listenersOf.mp guest
    exact absurd same (owned.guests s present)

/-! ### What is removed -/

theorem Reachable.removed (reachable : Reachable t) (event : TabEvent ω) {channel : ChannelId}
    {l : Registration RaceId} (entry : l ∈ (t.client.listenersOn channel).entries)
    (removed : l ∉ ((t.step event).client.listenersOn channel).entries) :
    ∃ s, .listeners s ∈ t.moved event ∧ s.race = l.listener := by
  have works : ∀ world today, event ≠ .pass world today := by
    rintro world today rfl
    exact removed entry
  obtain ⟨_, others, before, acts, _⟩ := t.step_acts event works
  by_contra nobody
  refine removed (acts.entries_kept (reachable.wired.perm before) entry ?_)
  intro s holds own
  exact nobody ⟨s, holds, own⟩

theorem Reachable.mem_listeners (reachable : Reachable t) {s : Subscription}
    (holds : .listeners s ∈ t.held) {channel : ChannelId} {l : Registration RaceId}
    (entry : l ∈ (t.client.listenersOn channel).entries) (own : s.race = l.listener) :
    s.channel = channel ∧ l.event ∈ s.events := by
  have wired := reachable.wired
  obtain ⟨r, member, rfl, listens⟩ := wired.mem_entries.mp entry
  obtain ⟨l', registered, rfl⟩ := List.mem_map.mp listens
  have one := wired.subscription_eq holds member own.symm
  subst one
  exact ⟨rfl, List.mem_map_of_mem (f := Prod.fst) registered⟩

/-- At any time the listeners on a channel are those of the actions and scripts in flight and those
of others. A listener that an event removes belongs to the flight that the event carries on, or it
is the one that is to be removed; and a listener that a flight has installed is registered only as
long as the flight listens, so when it has ended none is. -/
theorem Reachable.listeners_in_flight (reachable : Reachable t) :
    (∀ channel, ((t.client.listenersOn channel).entries.map fun l => (l.event, l.listener)).Perm
      (t.flights.flatMap (Flight.listeners channel) ++ t.guestListeners channel)) ∧
    (∀ event channel, ∀ l ∈ (t.client.listenersOn channel).entries,
      l ∈ ((t.step event).client.listenersOn channel).entries ∨
      (∃ flight f, event = .poll flight ∧ t.flights[flight]? = some f ∧
        (l.event, l.listener) ∈ f.listeners channel) ∨
      ∃ guest s, event = .unlisten guest ∧ t.guests[guest]? = some s ∧ s.race = l.listener) ∧
    ∀ event flight, t.subject event = some flight →
      ∀ race, t.client.started ≤ race → race < (t.step event).client.started →
      ∀ events channel, ∀ l ∈ (((t.step event).run events).client.listenersOn channel).entries,
        l.listener = race →
        ∃ f, ((t.step event).run events).flights[flight]? = some f ∧
          (l.event, race) ∈ f.listeners channel := by
  refine ⟨reachable.entries_perm, ?_, ?_⟩
  · intro event channel l entry
    by_cases kept : l ∈ ((t.step event).client.listenersOn channel).entries
    · exact .inl kept
    obtain ⟨s, holds, own⟩ := reachable.removed event entry kept
    rcases mem_moved holds with ⟨flight, f, rfl, found, holds⟩ | ⟨guest, s', rfl, found, same⟩
    · have held := mem_held_of_heldBy (mem_heldBy.mpr ⟨f, found, holds⟩)
      obtain ⟨on, listens⟩ := reachable.mem_listeners held entry own
      exact .inr (.inl ⟨flight, f, rfl, found,
        Flight.mem_listeners.mpr ⟨s, holds, on, own, listens⟩⟩)
    · cases same
      exact .inr (.inr ⟨guest, s, rfl, found, own⟩)
  · intro event flight moves race first last events channel l entry own
    exact ((reachable.step event).run events).registered_owned
      ((reachable.owned moves first last).run events) entry own

theorem listeners_in_flight_watching :
    let t := connected.step (.dispatch (.awaitEmit { event := "news" }))
    ((t.client.listenersOn 0).entries.map fun l => (l.event, l.listener)).Perm [("news", 1)] := by
  intro t
  have flights : t.flights.flatMap (Flight.listeners 0) ++ t.guestListeners 0 = [("news", 1)] := by
    decide +kernel
  have reachable : Reachable t := connected_reachable.step _
  rw [← flights]
  exact (Reachable.listeners_in_flight reachable).1 0

end Tab

end LiveSession
