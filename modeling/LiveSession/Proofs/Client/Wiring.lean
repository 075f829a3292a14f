import LiveSession.Proofs.Client.Steps

/-!
# Listeners of actions in flight

`Wired` says that the listeners on every channel are those of the races in flight, and that these
are the ones that are held. Each act keeps it, whatever else is held, so it is true of every tab
that can be reached: the listeners of an action are there as long as the action is in flight, and
no others are.
-/

namespace LiveSession

def OpenRace.registrations (r : OpenRace) : List (Registration RaceId) :=
  r.listeners.map fun l => ⟨l.2, l.1, r.id⟩

def OpenRace.subscription (r : OpenRace) : Subscription :=
  ⟨r.id, r.channel, r.listeners.map Prod.fst⟩

variable {ω : Type} {c c' : Client ω} {k k' : List Held}

/-- The listeners on the channels of a client are those that are held. -/
structure Wired (c : Client ω) (k : List Held) : Prop where
  registered : ∀ channel, (c.listenersOn channel).entries =
    (c.wires.filter fun r => r.channel = channel).flatMap OpenRace.registrations
  numbered : ∀ channel, (c.listenersOn channel).Numbered
  held : (c.wires.map OpenRace.subscription).Perm (k.filterMap Held.subscription?)
  distinct : (c.wires.map OpenRace.id).Nodup
  started : ∀ r ∈ c.wires, r.id < c.started
  opened : ∀ r ∈ c.wires, r.channel < c.channels.length
  events : ∀ r ∈ c.wires, (r.listeners.map Prod.fst).Nodup
  pending : ∀ p, .channel p ∈ k → p.channel.handle < c.channels.length
  recorded : ∀ channel ∈ c.session.channels, channel.handle < c.channels.length

namespace Wired

theorem perm (h : Wired c k) (perm : k.Perm k') : Wired c k' :=
  { h with
    held := h.held.trans (perm.filterMap _)
    pending := fun p holds => h.pending p (perm.mem_iff.mpr holds) }

theorem of_eq (h : Wired c k) (channels : c'.channels = c.channels) (wires : c'.wires = c.wires)
    (started : c'.started = c.started)
    (recorded : ∀ channel ∈ c'.session.channels, channel.handle < c.channels.length) :
    Wired c' k := by
  have listenersOn (channel : ChannelId) : c'.listenersOn channel = c.listenersOn channel := by
    unfold Client.listenersOn
    rw [channels]
  constructor
  case registered =>
    intro channel
    rw [listenersOn, wires]
    exact h.registered channel
  case numbered =>
    intro channel
    rw [listenersOn]
    exact h.numbered channel
  case held =>
    rw [wires]
    exact h.held
  case distinct =>
    rw [wires]
    exact h.distinct
  case started =>
    rw [wires, started]
    exact h.started
  case opened =>
    rw [wires, channels]
    exact h.opened
  case events =>
    rw [wires]
    exact h.events
  case pending =>
    rw [channels]
    exact h.pending
  case recorded =>
    rw [channels]
    exact recorded

theorem closes (h : Wired c k) {closed : List ChannelId} (closes : Client.Closes closed c c') :
    Wired c' k := by
  refine h.of_eq closes.channels closes.wires closes.started ?_
  rw [closes.session]
  exact h.recorded

theorem known_lt (h : Wired c k) {channel : ChannelId} (known : Known c k channel) :
    channel < c.channels.length := by
  cases known with
  | held holds => exact h.pending _ holds
  | recorded current => exact h.recorded _ current
  | opened below => exact below

/-! ### Registering and removing -/

theorem registrations_mapIdx (race : RaceId) (channel : ChannelId) (events : List String)
    (next : Nat) (queue : List Occurrence) :
    OpenRace.registrations ⟨race, channel, events.mapIdx fun i e => (e, next + i), queue⟩ =
      Listeners.numbered next events race := by
  simp [OpenRace.registrations, Listeners.numbered, List.mapIdx_eq_zipIdx_map]

theorem names_mapIdx (events : List String) (next : Nat) :
    (events.mapIdx fun i e => (e, next + i)).map Prod.fst = events := by
  apply List.ext_getElem <;> simp

theorem subscription_mapIdx (race : RaceId) (channel : ChannelId) (events : List String)
    (next : Nat) (queue : List Occurrence) :
    OpenRace.subscription ⟨race, channel, events.mapIdx fun i e => (e, next + i), queue⟩ =
      ⟨race, channel, events⟩ := by
  unfold OpenRace.subscription
  rw [names_mapIdx]

theorem install (h : Wired c k) {channel : ChannelId} (below : channel < c.channels.length)
    {events : List String} (distinct : events.Nodup) :
    Wired (c.install channel events).1 (.listeners ⟨c.started, channel, events⟩ :: k) := by
  have length : (c.install channel events).1.channels.length = c.channels.length := List.length_set
  constructor
  case registered =>
    intro other
    rw [Client.listenersOn_install c below, Client.wires_install, List.filter_append,
      List.flatMap_append, ← h.registered other]
    by_cases same : other = channel
    · subst same
      rw [if_pos rfl, Listeners.entries_addAll, List.filter_cons_of_pos (by simp), List.filter_nil,
        List.flatMap_singleton, registrations_mapIdx]
    · rw [if_neg same, List.filter_cons_of_neg (by simpa using Ne.symm same), List.filter_nil,
        List.flatMap_nil, List.append_nil]
  case numbered =>
    intro other
    rw [Client.listenersOn_install c below]
    split
    · exact (h.numbered channel).addAll events c.started
    · exact h.numbered other
  case held =>
    rw [Client.wires_install, List.map_append, List.map_singleton, subscription_mapIdx]
    exact (List.perm_append_singleton _ _).trans (h.held.cons _)
  case distinct =>
    rw [Client.wires_install, List.map_append]
    refine List.nodup_append.mpr ⟨h.distinct, List.nodup_singleton _, ?_⟩
    intro a old b new same
    obtain ⟨r, member, rfl⟩ := List.mem_map.mp old
    have started := h.started r member
    rw [same, List.mem_singleton.mp new] at started
    exact Nat.lt_irrefl _ started
  case started =>
    intro r member
    show r.id < c.started + 1
    rw [Client.wires_install] at member
    rcases List.mem_append.mp member with old | new
    · exact Nat.lt_succ_of_lt (h.started r old)
    · rw [List.mem_singleton.mp new]
      exact Nat.lt_succ_self _
  case opened =>
    intro r member
    rw [length]
    rw [Client.wires_install] at member
    rcases List.mem_append.mp member with old | new
    · exact h.opened r old
    · rw [List.mem_singleton.mp new]
      exact below
  case events =>
    intro r member
    rw [Client.wires_install] at member
    rcases List.mem_append.mp member with old | new
    · exact h.events r old
    · rw [List.mem_singleton.mp new, names_mapIdx]
      exact distinct
  case pending =>
    intro p holds
    rw [length]
    rcases List.mem_cons.mp holds with new | old
    · cases new
    · exact h.pending p old
  case recorded =>
    rw [length]
    exact h.recorded

theorem eq_of_id (h : Wired c k) {r r' : OpenRace} (member : r ∈ c.wires) (member' : r' ∈ c.wires)
    (same : r.id = r'.id) : r = r' :=
  List.inj_on_of_nodup_map h.distinct member member' same

theorem mem_entries (h : Wired c k) {channel : ChannelId} {l : Registration RaceId} :
    l ∈ (c.listenersOn channel).entries ↔
      ∃ r ∈ c.wires, r.channel = channel ∧ l ∈ r.registrations := by
  rw [h.registered, List.mem_flatMap]
  simp only [List.mem_filter, decide_eq_true_eq, and_assoc]

theorem listener_unique (h : Wired c k) {r r' : OpenRace} (member : r ∈ c.wires)
    (member' : r' ∈ c.wires) (same : r.channel = r'.channel) {l : String × Nat}
    (listens : l ∈ r.listeners) (listens' : l ∈ r'.listeners) : r = r' := by
  have entry : ⟨l.2, l.1, r.id⟩ ∈ (c.listenersOn r.channel).entries :=
    h.mem_entries.mpr ⟨r, member, rfl, List.mem_map.mpr ⟨l, listens, rfl⟩⟩
  have entry' : ⟨l.2, l.1, r'.id⟩ ∈ (c.listenersOn r.channel).entries :=
    h.mem_entries.mpr ⟨r', member', same.symm, List.mem_map.mpr ⟨l, listens', rfl⟩⟩
  have one := (h.numbered r.channel).eq_of_id entry entry' rfl
  exact h.eq_of_id member member' (congrArg Registration.listener one)

theorem mem_wires (h : Wired c k) {s : Subscription} (holds : .listeners s ∈ k) :
    ∃ r ∈ c.wires, r.subscription = s :=
  List.mem_map.mp (h.held.mem_iff.mpr (List.mem_filterMap.mpr ⟨_, holds, rfl⟩))

theorem lt_started (h : Wired c k) {s : Subscription} (holds : .listeners s ∈ k) :
    s.race < c.started := by
  obtain ⟨r, member, rfl⟩ := h.mem_wires holds
  exact h.started r member

theorem subscription_eq (h : Wired c k) {s : Subscription} (holds : .listeners s ∈ k)
    {r : OpenRace} (member : r ∈ c.wires) (own : r.id = s.race) : r.subscription = s := by
  obtain ⟨r', member', rfl⟩ := h.mem_wires holds
  exact congrArg OpenRace.subscription (h.eq_of_id member member' own)

theorem exists_race (h : Wired c k) {s : Subscription} (holds : .listeners s ∈ k) :
    ∃ r, c.races.find? (fun r => r.id = s.race) = some r ∧ r.bare ∈ c.wires ∧ r.id = s.race := by
  obtain ⟨_, member, rfl⟩ := h.mem_wires holds
  obtain ⟨race, present, rfl⟩ := List.mem_map.mp member
  cases found : c.races.find? fun r => r.id = race.id with
  | none => exact absurd (decide_eq_true rfl) (List.find?_eq_none.mp found race present)
  | some r =>
    have same : r.id = race.id := by simpa using List.find?_some found
    exact ⟨r, found, List.mem_map_of_mem (List.mem_of_find?_eq_some found), same⟩

theorem entries_release {s : Subscription} (h : Wired c (.listeners s :: k)) (channel : ChannelId) :
    ((c.release s.race).listenersOn channel).entries =
      (c.listenersOn channel).entries.filter fun l => l.listener ≠ s.race := by
  obtain ⟨r, found, member, id⟩ := h.exists_race List.mem_cons_self
  rw [Client.listenersOn_release c found (h.opened r.bare member)]
  by_cases own : channel = r.channel
  · subst own
    rw [if_pos rfl, Listeners.entries_removeAll]
    apply List.filter_congr
    intro l entry
    obtain ⟨r', member', same, listens⟩ := h.mem_entries.mp entry
    obtain ⟨l', listens', rfl⟩ := List.mem_map.mp listens
    rw [decide_eq_decide, not_iff_not]
    -- Keys are removed, so the race has to be told from the event and number of a listener.
    constructor
    · intro removed
      rw [h.listener_unique member' member same listens' removed]
      exact id
    · intro released
      have one := h.eq_of_id member' member (released.trans id.symm)
      rw [one] at listens'
      exact listens'
  · rw [if_neg own]
    symm
    apply List.filter_eq_self.mpr
    intro l entry
    obtain ⟨r', member', same, listens⟩ := h.mem_entries.mp entry
    obtain ⟨l', listens', rfl⟩ := List.mem_map.mp listens
    apply decide_eq_true
    intro released
    have one := h.eq_of_id member' member (released.trans id.symm)
    rw [← same, one] at own
    exact own rfl

theorem filter_registrations (p : RaceId → Bool) (rs : List OpenRace) :
    (rs.flatMap OpenRace.registrations).filter (fun l => p l.listener) =
      (rs.filter fun r => p r.id).flatMap OpenRace.registrations := by
  induction rs with
  | nil => rfl
  | cons r rs ih =>
    rw [List.flatMap_cons, List.filter_append, ih]
    by_cases kept : p r.id = true
    · rw [List.filter_cons_of_pos (p := fun r : OpenRace => p r.id) kept, List.flatMap_cons,
        List.filter_eq_self.mpr]
      intro l member
      obtain ⟨_, _, rfl⟩ := List.mem_map.mp member
      exact kept
    · rw [List.filter_cons_of_neg (p := fun r : OpenRace => p r.id) kept,
        List.filter_eq_nil_iff.mpr, List.nil_append]
      intro l member
      obtain ⟨_, _, rfl⟩ := List.mem_map.mp member
      exact kept

theorem held_races (h : Wired c k) :
    ((k.filterMap Held.subscription?).map Subscription.race).Nodup := by
  refine (h.held.map Subscription.race).nodup_iff.mp ?_
  rw [List.map_map]
  exact h.distinct

theorem release {s : Subscription} (h : Wired c (.listeners s :: k)) :
    Wired (c.release s.race) k := by
  obtain ⟨r, found, member, _⟩ := h.exists_race List.mem_cons_self
  obtain ⟨channels, length, after⟩ := c.release_eq s.race
  constructor
  case registered =>
    intro channel
    rw [h.entries_release, h.registered, Client.wires_release,
      filter_registrations fun race => race ≠ s.race]
    apply congrArg (List.flatMap OpenRace.registrations)
    rw [List.filter_filter, List.filter_filter]
    apply List.filter_congr
    intro r' _
    exact Bool.and_comm _ _
  case numbered =>
    intro channel
    rw [Client.listenersOn_release c found (h.opened r.bare member)]
    split
    · exact (h.numbered r.channel).removeAll r.listeners
    · exact h.numbered channel
  case held =>
    have others : ∀ s' ∈ k.filterMap Held.subscription?, s'.race ≠ s.race := by
      intro s' holds same
      have distinct := List.nodup_cons.mp h.held_races
      exact distinct.1 (same ▸ List.mem_map_of_mem holds)
    have kept := h.held.filter fun s' => s'.race ≠ s.race
    have named : (Held.listeners s :: k).filterMap Held.subscription? =
        s :: k.filterMap Held.subscription? := rfl
    rw [named, List.filter_cons_of_neg (by simp),
      List.filter_eq_self.mpr fun s' holds => decide_eq_true (others s' holds),
      List.filter_map] at kept
    rw [Client.wires_release]
    exact kept
  case distinct =>
    rw [Client.wires_release]
    exact h.distinct.sublist (List.filter_sublist.map _)
  case started =>
    intro r' member'
    rw [Client.wires_release] at member'
    rw [after]
    exact h.started r' (List.mem_filter.mp member').1
  case opened =>
    intro r' member'
    rw [Client.wires_release] at member'
    rw [after]
    exact length ▸ h.opened r' (List.mem_filter.mp member').1
  case events =>
    intro r' member'
    rw [Client.wires_release] at member'
    exact h.events r' (List.mem_filter.mp member').1
  case pending =>
    intro p holds
    rw [after]
    exact length ▸ h.pending p (List.mem_cons_of_mem _ holds)
  case recorded =>
    rw [after]
    exact length ▸ h.recorded

theorem open_channel (h : Wired c k) (p : PendingChannel) (world : ω)
    (history : List ChannelEvent) (next : p.channel.handle = c.channels.length) :
    Wired { c with world, channels := c.channels ++ [{}], history } (.channel p :: k) := by
  have listenersOn (channel : ChannelId) :
      Client.listenersOn { c with world, channels := c.channels ++ [{}], history } channel =
        c.listenersOn channel := by
    unfold Client.listenersOn
    dsimp only
    rw [List.getElem?_append]
    split
    · rfl
    · rename_i above
      rw [List.getElem?_eq_none (Nat.le_of_not_lt above)]
      cases channel - c.channels.length <;> rfl
  have more : (c.channels ++ [({} : Listeners RaceId)]).length = c.channels.length + 1 := List.length_append
  refine ⟨?registered, ?numbered, h.held, h.distinct, h.started, ?opened, h.events, ?pending,
    ?recorded⟩
  case registered =>
    intro channel
    rw [listenersOn]
    exact h.registered channel
  case numbered =>
    intro channel
    rw [listenersOn]
    exact h.numbered channel
  case opened =>
    intro r member
    rw [more]
    exact Nat.lt_succ_of_lt (h.opened r member)
  case pending =>
    intro p' holds
    rw [more]
    rcases List.mem_cons.mp holds with new | old
    · cases new
      exact next ▸ Nat.lt_succ_self _
    · exact Nat.lt_succ_of_lt (h.pending p' old)
  case recorded =>
    intro channel current
    rw [more]
    exact Nat.lt_succ_of_lt (h.recorded channel current)

theorem drop_channel {p : PendingChannel} (h : Wired c (.channel p :: k)) : Wired c k :=
  { h with pending := fun p' holds => h.pending p' (List.mem_cons_of_mem _ holds) }

theorem act [Transports ω] (h : Wired c k) (act : Act c k c' k') : Wired c' k' := by
  cases act with
  | quiet still world =>
    refine h.of_eq still.channels ?_ still.started ?_
    · unfold Client.wires
      rw [still.races]
    · unfold Session.channels
      rw [still.page]
      exact h.recorded
  | deliver channel s => exact h.closes (Client.closes_deliver c channel s)
  | install known distinct => exact h.install (h.known_lt known) distinct
  | release s => exact h.release
  | opened current next chosen called => exact h.open_channel ⟨_, _⟩ _ _ next
  | recorded current same =>
    rename_i page p
    refine h.drop_channel.of_eq rfl rfl rfl ?_
    intro channel member
    simp only [Session.channels, Session.record, current, Option.map_some] at member
    obtain ⟨e, entry, rfl⟩ := List.mem_map.mp member
    rcases Entries.mem_of_mem_set entry with rfl | old
    · exact h.pending p List.mem_cons_self
    · refine h.recorded e.2 ?_
      unfold Session.channels
      rw [current]
      exact List.mem_map_of_mem old
  | abandoned p => exact h.drop_channel.closes (Client.closes_disconnect c p.channel.handle)
  | unloaded =>
    refine Wired.closes ?_ (Client.closes_unloadPage c)
    refine h.of_eq rfl rfl rfl ?_
    intro channel member
    cases member
  | loaded response =>
    refine Wired.closes ?_ (Client.closes_loadPage c response)
    refine h.of_eq rfl rfl rfl ?_
    intro channel member
    cases member
  | swap a b => exact h.perm (.swap b a _)

theorem acts [Transports ω] (h : Wired c k) (acts : Acts c k c' k') : Wired c' k' := by
  induction acts with
  | refl => exact h
  | step act _ ih => exact ih (h.act act)

end Wired

/-! ### What an act leaves alone -/

theorem Act.started_le [Transports ω] (act : Act c k c' k') : c.started ≤ c'.started := by
  cases act with
  | quiet still world => exact Nat.le_of_eq still.started.symm
  | deliver channel s => exact Nat.le_of_eq (Client.closes_deliver c channel s).started.symm
  | install known distinct => exact Nat.le_succ _
  | release s =>
    obtain ⟨_, _, after⟩ := c.release_eq s.race
    exact Nat.le_of_eq (congrArg Client.started after).symm
  | abandoned p => exact Nat.le_of_eq (Client.closes_disconnect c _).started.symm
  | unloaded => exact Nat.le_of_eq (Client.closes_unloadPage c).started.symm
  | loaded response => exact Nat.le_of_eq (Client.closes_loadPage c response).started.symm
  | _ => exact Nat.le_refl _

theorem Acts.started_le [Transports ω] (acts : Acts c k c' k') : c.started ≤ c'.started := by
  induction acts with
  | refl => exact Nat.le_refl _
  | step act _ ih => exact Nat.le_trans act.started_le ih

theorem Act.held_or_fresh [Transports ω] (act : Act c k c' k') {s : Subscription}
    (holds : .listeners s ∈ k') : .listeners s ∈ k ∨ c.started ≤ s.race := by
  cases act with
  | install known distinct =>
    rcases List.mem_cons.mp holds with new | old
    · cases new
      exact .inr (Nat.le_refl _)
    · exact .inl old
  | release s => exact .inl (List.mem_cons_of_mem _ holds)
  | opened current next chosen called =>
    rcases List.mem_cons.mp holds with new | old
    · cases new
    · exact .inl old
  | recorded current same => exact .inl (List.mem_cons_of_mem _ holds)
  | abandoned p => exact .inl (List.mem_cons_of_mem _ holds)
  | swap a b => exact .inl ((List.Perm.swap a b _).mem_iff.mp holds)
  | _ => exact .inl holds

/-- Listeners that are held after some acts were held before, or they are new. -/
theorem Acts.held_or_fresh [Transports ω] (acts : Acts c k c' k') {s : Subscription}
    (holds : .listeners s ∈ k') : .listeners s ∈ k ∨ c.started ≤ s.race := by
  induction acts with
  | refl => exact .inl holds
  | step act _ ih =>
    rcases ih holds with kept | new
    · exact act.held_or_fresh kept
    · exact .inr (Nat.le_trans act.started_le new)

theorem Act.entries_kept [Transports ω] (h : Wired c (k ++ others)) (act : Act c k c' k')
    {channel : ChannelId} {l : Registration RaceId} (entry : l ∈ (c.listenersOn channel).entries)
    (other : ∀ s, .listeners s ∈ k → s.race ≠ l.listener) :
    l ∈ (c'.listenersOn channel).entries := by
  have same {c' : Client ω} (channels : c'.channels = c.channels) :
      l ∈ (c'.listenersOn channel).entries := by
    unfold Client.listenersOn
    rw [channels]
    exact entry
  cases act with
  | quiet still world => exact same still.channels
  | deliver ch s => exact same (Client.closes_deliver c ch s).channels
  | install known distinct =>
    rw [Client.listenersOn_install c (h.known_lt (known.frame others))]
    split
    · rename_i own
      subst own
      rw [Listeners.entries_addAll]
      exact List.mem_append_left _ entry
    · exact entry
  | release s =>
    rw [Wired.entries_release h]
    exact List.mem_filter.mpr
      ⟨entry, decide_eq_true fun own => other s List.mem_cons_self own.symm⟩
  | opened current next chosen called =>
    have member : channel < c.channels.length := by
      obtain ⟨r, wired, rfl, _⟩ := h.mem_entries.mp entry
      exact h.opened r wired
    unfold Client.listenersOn at entry ⊢
    rw [List.getElem?_append_left member]
    exact entry
  | recorded current same => exact entry
  | abandoned p => exact same (Client.closes_disconnect c _).channels
  | unloaded => exact same (Client.closes_unloadPage c).channels
  | loaded response => exact same (Client.closes_loadPage c response).channels
  | swap a b => exact entry

/-- Listeners that are not held when some acts begin are not removed by them. -/
theorem Acts.entries_kept [Transports ω] {others : List Held} (h : Wired c (k ++ others))
    (acts : Acts c k c' k') {channel : ChannelId} {l : Registration RaceId}
    (entry : l ∈ (c.listenersOn channel).entries)
    (other : ∀ s, .listeners s ∈ k → s.race ≠ l.listener) :
    l ∈ (c'.listenersOn channel).entries := by
  induction acts with
  | refl => exact entry
  | step act _ ih =>
    refine ih (h.act (act.frame others)) (act.entries_kept h entry other) ?_
    obtain ⟨r, wired, _, listens⟩ := h.mem_entries.mp entry
    obtain ⟨_, _, rfl⟩ := List.mem_map.mp listens
    intro s holds own
    rcases act.held_or_fresh holds with old | new
    · exact other s old own
    · exact Nat.ne_of_gt (Nat.lt_of_lt_of_le (h.started r wired) new) own

/-! ### Tabs -/

namespace Tab

variable [Transports ω] {t : Tab ω}

theorem wired_step (h : Wired t.client t.held) (event : TabEvent ω) :
    Wired (t.step event).client (t.step event).held := by
  rcases t.step_cases event with ⟨world, today, rfl⟩ | ⟨after, others, before, acts, now⟩
  · exact h.of_eq rfl rfl rfl h.recorded
  · exact ((h.perm before).acts (acts.frame others)).perm now.symm

theorem Reachable.wired (reachable : Reachable t) : Wired t.client t.held := by
  induction reachable with
  | fresh profile world today sources =>
    refine ⟨fun _ => rfl, fun _ => Listeners.numbered_empty, .refl _, List.nodup_nil,
      ?_, ?_, ?_, ?_, ?_⟩
    all_goals
      intro _ member
      cases member
  | step event _ ih => exact wired_step ih event

end Tab

end LiveSession
