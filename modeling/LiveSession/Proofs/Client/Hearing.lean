import LiveSession.Proofs.Channel.Race
import LiveSession.Proofs.Client.Wiring

/-!
# What races hear

A race collects what its channel dispatches for its events as long as it is in flight: each
occurrence once, in order, and nothing else. `Grows` says so of two clients, the second of which
comes later. It is true of all acts, and so of all steps of a tab in which the clock does not go
back.
-/

namespace LiveSession

namespace ChannelEvent

def occurrence? : ChannelEvent → Option Occurrence
  | dispatched _ o => some o
  | _ => none

def heard? (channel : ChannelId) (events : List String) : ChannelEvent → Option Occurrence
  | dispatched other o => if other = channel ∧ o.event ∈ events then some o else none
  | _ => none

end ChannelEvent

def dispatches (history : List ChannelEvent) : List Occurrence :=
  history.filterMap ChannelEvent.occurrence?

def occurrences (channel : ChannelId) (events : List String) (history : List ChannelEvent) :
    List Occurrence :=
  history.filterMap (ChannelEvent.heard? channel events)

theorem dispatches_append (before after : List ChannelEvent) :
    dispatches (before ++ after) = dispatches before ++ dispatches after :=
  List.filterMap_append

theorem occurrences_append (channel : ChannelId) (events : List String)
    (before after : List ChannelEvent) :
    occurrences channel events (before ++ after) =
      occurrences channel events before ++ occurrences channel events after :=
  List.filterMap_append

theorem occurrences_sublist (channel : ChannelId) (events : List String)
    (history : List ChannelEvent) :
    (occurrences channel events history).Sublist (dispatches history) := by
  induction history with
  | nil => exact .slnil
  | cons event history ih =>
    cases event with
    | opened | recorded => exact ih
    | dispatched other o =>
      by_cases hears : other = channel ∧ o.event ∈ events
      · simp only [occurrences, dispatches, List.filterMap_cons, ChannelEvent.heard?,
          ChannelEvent.occurrence?, if_pos hears]
        exact ih.cons_cons o
      · simp only [occurrences, dispatches, List.filterMap_cons, ChannelEvent.heard?,
          ChannelEvent.occurrence?, if_neg hears]
        exact ih.cons o

theorem occurrences_silent {channel : ChannelId} {events : List String}
    {history : List ChannelEvent} (silent : dispatches history = []) :
    occurrences channel events history = [] := by
  have sublist := occurrences_sublist channel events history
  rw [silent] at sublist
  exact List.sublist_nil.mp sublist

theorem event_of_mem_occurrences {channel : ChannelId} {events : List String}
    {history : List ChannelEvent} {o : Occurrence}
    (member : o ∈ occurrences channel events history) : o.event ∈ events := by
  obtain ⟨event, _, hears⟩ := List.mem_filterMap.mp member
  cases event with
  | opened | recorded => cases hears
  | dispatched other o' =>
    by_cases on : other = channel ∧ o'.event ∈ events
    · rw [ChannelEvent.heard?, if_pos on] at hears
      cases hears
      exact on.2
    · rw [ChannelEvent.heard?, if_neg on] at hears
      cases hears

theorem OpenRace.eq_of_bare {r r' : OpenRace} (same : r'.bare = r.bare) :
    r'.id = r.id ∧ r'.channel = r.channel ∧ r'.listeners = r.listeners := by
  simpa [OpenRace.bare] using same

/-- Things that happen in a span of time, in order. -/
structure Timed (start stop : Nat) (added : List ChannelEvent) : Prop where
  forward : start ≤ stop
  ordered : Race.Ordered (dispatches added)
  between : ∀ o ∈ dispatches added, start ≤ o.time ∧ o.time ≤ stop

namespace Timed

variable {a b c : Nat} {added more : List ChannelEvent}

theorem silent (forward : a ≤ b) (nothing : dispatches added = []) : Timed a b added := by
  refine ⟨forward, ?_, ?_⟩
  · rw [nothing]
    exact List.Pairwise.nil
  · rw [nothing]
    intro o member
    cases member

theorem trans (h₁ : Timed a b added) (h₂ : Timed b c more) : Timed a c (added ++ more) := by
  refine ⟨Nat.le_trans h₁.forward h₂.forward, ?_, ?_⟩
  · rw [dispatches_append]
    refine List.pairwise_append.mpr ⟨h₁.ordered, h₂.ordered, ?_⟩
    intro o early o' late
    exact Nat.le_trans (h₁.between o early).2 (h₂.between o' late).1
  · intro o member
    rw [dispatches_append] at member
    rcases List.mem_append.mp member with early | late
    · obtain ⟨from_, until_⟩ := h₁.between o early
      exact ⟨from_, Nat.le_trans until_ h₂.forward⟩
    · obtain ⟨from_, until_⟩ := h₂.between o late
      exact ⟨Nat.le_trans h₁.forward from_, until_⟩

theorem heard (timed : Timed a b added) (channel : ChannelId) (events : List String) :
    Race.Ordered (occurrences channel events added) ∧
      ∀ o ∈ occurrences channel events added, a ≤ o.time ∧ o.time ≤ b := by
  have sublist := occurrences_sublist channel events added
  exact ⟨timed.ordered.sublist sublist, fun o member => timed.between o (sublist.subset member)⟩

end Timed

variable {ω : Type} [Transports ω] {c c' c'' : Client ω} {k k' : List Held}
  {added more : List ChannelEvent}

/-- The calls of the transports do not put the clock back. -/
def Transports.Forward (ω : Type) [Transports ω] : Prop :=
  ∀ ⦃w w' : ω⦄, Transports.Called w w' → Transports.now w ≤ Transports.now w'

/-- Things happen to the channels of a client, and the races that are in flight before and after
hear of them. -/
structure Grows (c c' : Client ω) (added : List ChannelEvent) : Prop where
  history : c'.history = c.history ++ added
  timed : Timed c.now c'.now added
  started : c.started ≤ c'.started
  queues : ∀ r' ∈ c'.races, r'.id < c.started → ∃ r ∈ c.races, r'.bare = r.bare ∧
    r'.queue = r.queue ++ occurrences r.channel (r.listeners.map Prod.fst) added

namespace Grows

theorem silent (history : c'.history = c.history ++ added) (nothing : dispatches added = [])
    (forward : c.now ≤ c'.now) (started : c.started ≤ c'.started)
    (races : ∀ r ∈ c'.races, r.id < c.started → r ∈ c.races) : Grows c c' added := by
  refine ⟨history, .silent forward nothing, started, ?_⟩
  intro r member old
  refine ⟨r, races r member old, rfl, ?_⟩
  rw [occurrences_silent nothing, List.append_nil]

theorem refl (c : Client ω) : Grows c c [] :=
  silent (List.append_nil _).symm rfl (Nat.le_refl _) (Nat.le_refl _) fun _ member _ => member

theorem trans (h₁ : Grows c c' added) (h₂ : Grows c' c'' more) : Grows c c'' (added ++ more) := by
  refine ⟨?_, h₁.timed.trans h₂.timed, Nat.le_trans h₁.started h₂.started, ?_⟩
  · rw [h₂.history, h₁.history, List.append_assoc]
  · intro r'' member'' old
    obtain ⟨r', member', bare', queue'⟩ :=
      h₂.queues r'' member'' (Nat.lt_of_lt_of_le old h₁.started)
    obtain ⟨id, -, -⟩ := OpenRace.eq_of_bare bare'
    obtain ⟨r, member, bare, queue⟩ := h₁.queues r' member' (id ▸ old)
    obtain ⟨-, channel, listeners⟩ := OpenRace.eq_of_bare bare
    refine ⟨r, member, bare'.trans bare, ?_⟩
    rw [queue', queue, channel, listeners, occurrences_append, List.append_assoc]

end Grows

/-! ### Deliveries -/

namespace Wired

theorem filter_id {rs : List OpenRace} {r : OpenRace} (distinct : (rs.map OpenRace.id).Nodup)
    (member : r ∈ rs) : rs.filter (fun r' => r'.id = r.id) = [r] := by
  induction rs with
  | nil => cases member
  | cons first rest ih =>
    obtain ⟨absent, distinct⟩ := List.nodup_cons.mp distinct
    rcases List.mem_cons.mp member with rfl | later
    · rw [List.filter_cons_of_pos (by simp), List.filter_eq_nil_iff.mpr]
      intro r' later
      simp only [decide_eq_true_eq]
      intro same
      exact absent (same ▸ List.mem_map_of_mem later)
    · rw [List.filter_cons_of_neg, ih distinct later]
      simp only [decide_eq_true_eq]
      intro same
      exact absent (same ▸ List.mem_map_of_mem later)

omit [Transports ω] in
theorem entries_of (h : Wired c k) {r : OpenRace} (member : r ∈ c.wires) (channel : ChannelId) :
    (c.listenersOn channel).entries.filter (fun l => l.listener = r.id) =
      if r.channel = channel then r.registrations else [] := by
  rw [h.registered, filter_registrations fun race => race = r.id, List.filter_filter]
  have swapped : (fun r' : OpenRace => decide (r'.id = r.id) && decide (r'.channel = channel)) =
      fun r' => decide (r'.channel = channel) && decide (r'.id = r.id) :=
    funext fun _ => Bool.and_comm _ _
  rw [swapped, ← List.filter_filter, filter_id h.distinct member]
  by_cases on : r.channel = channel
  · rw [if_pos on, List.filter_cons_of_pos (by simpa using on)]
    exact List.append_nil _
  · rw [if_neg on, List.filter_cons_of_neg (by simpa using on)]
    rfl

omit [Transports ω] in
theorem count_listeners (h : Wired c k) {r : OpenRace} (member : r ∈ c.wires) (channel : ChannelId)
    (event : String) :
    ((c.listenersOn channel).on event).countP (fun l => l.listener = r.id) =
      if channel = r.channel ∧ event ∈ r.listeners.map Prod.fst then 1 else 0 := by
  have named : r.registrations.countP (fun l => l.event == event) =
      (r.listeners.map Prod.fst).count event := by
    unfold OpenRace.registrations
    rw [List.countP_map, List.count, List.countP_map]
    rfl
  have own : ((c.listenersOn channel).on event).countP (fun l => l.listener = r.id) =
      ((c.listenersOn channel).entries.filter fun l => l.listener = r.id).countP
        fun l => l.event == event := by
    unfold Listeners.on
    rw [List.countP_filter, List.countP_filter]
    exact List.countP_congr fun l _ => by rw [Bool.and_comm]
  rw [own, h.entries_of member]
  by_cases on : r.channel = channel
  · rw [if_pos on, named]
    by_cases listens : event ∈ r.listeners.map Prod.fst
    · rw [if_pos ⟨on.symm, listens⟩]
      exact List.count_eq_one_of_mem (h.events r member) listens
    · rw [if_neg fun both => listens both.2]
      exact List.count_eq_zero_of_not_mem listens
  · rw [if_neg on, if_neg fun both => on both.1.symm]
    rfl

end Wired

theorem Client.grows_deliver (h : Wired c k) (channel : ChannelId) (s : Signal) :
    Grows c (c.deliver channel s) [.dispatched channel ⟨s.event, s.args, c.now⟩] := by
  rw [deliver_eq]
  refine ⟨rfl, ⟨Nat.le_refl _, List.pairwise_singleton _ _, ?_⟩, Nat.le_refl _, ?_⟩
  · intro o member
    rw [List.mem_singleton.mp member]
    exact ⟨Nat.le_refl _, Nat.le_refl _⟩
  · intro r' member' _
    obtain ⟨r, member, rfl⟩ := List.mem_map.mp member'
    have wired : r.bare ∈ c.wires := List.mem_map_of_mem member
    have times : ((c.listenersOn channel).on s.event).countP (fun l => l.listener = r.id) =
        if channel = r.channel ∧ s.event ∈ r.listeners.map Prod.fst then 1 else 0 :=
      h.count_listeners wired channel s.event
    refine ⟨r, member, rfl, ?_⟩
    show r.queue ++ List.replicate _ _ = _
    congr 1
    rw [times]
    by_cases hears : channel = r.channel ∧ s.event ∈ r.listeners.map Prod.fst
    · rw [if_pos hears]
      simp only [occurrences, List.filterMap_cons, ChannelEvent.heard?, if_pos hears,
        List.filterMap_nil]
      rfl
    · rw [if_neg hears]
      simp only [occurrences, List.filterMap_cons, ChannelEvent.heard?, if_neg hears,
        List.filterMap_nil]
      rfl

theorem Client.grows_deliverAll (h : Wired c k) (channel : ChannelId) (signals : List Signal) :
    ∃ added, Grows c (deliverAll channel signals c) added := by
  induction signals generalizing c with
  | nil => exact ⟨[], .refl c⟩
  | cons s signals ih =>
    obtain ⟨added, grows⟩ := ih (h.closes (closes_deliver c channel s))
    exact ⟨_, (grows_deliver h channel s).trans grows⟩

section Forward

variable (forward : Transports.Forward ω)

include forward

theorem Client.grows_disconnect (h : Wired c k) (channel : ChannelId) :
    ∃ added, Grows c (c.disconnect channel) added := by
  let called : Client ω :=
    { c.logged (.disconnect channel) with world := (Transports.disconnect channel c.world).1 }
  have grown : Grows c called [] :=
    .silent (List.append_nil _).symm rfl (forward (.disconnect channel c.world)) (Nat.le_refl _)
      fun _ member _ => member
  have wired : Wired called k := h.of_eq rfl rfl rfl h.recorded
  obtain ⟨added, heard⟩ := grows_deliverAll wired channel (Transports.disconnect channel c.world).2
  exact ⟨_, grown.trans heard⟩

theorem Client.grows_disconnectAll (h : Wired c k) (channels : List SocketChannel) :
    ∃ added, Grows c (c.disconnectAll channels) added := by
  induction channels generalizing c with
  | nil => exact ⟨[], .refl c⟩
  | cons channel channels ih =>
    obtain ⟨added, closed⟩ := grows_disconnect forward h channel.handle
    obtain ⟨more, rest⟩ := ih (h.closes (closes_disconnect c channel.handle))
    exact ⟨_, closed.trans rest⟩

theorem Client.grows_leave (h : Wired c k) (session : Session) (pages : Nat)
    (none : session.channels = []) (channels : List SocketChannel) :
    ∃ added, Grows c (disconnectAll { c with session, pages } channels) added := by
  have left : Wired { c with session, pages } k := by
    refine h.of_eq rfl rfl rfl ?_
    intro channel member
    rw [none] at member
    cases member
  have same : Grows c { c with session, pages } [] :=
    .silent (List.append_nil _).symm rfl (Nat.le_refl _) (Nat.le_refl _) fun _ member _ => member
  obtain ⟨added, closed⟩ := grows_disconnectAll forward left channels
  exact ⟨_, same.trans closed⟩

/-! ### Acts and steps -/

theorem Act.grows (h : Wired c k) (act : Act c k c' k') : ∃ added, Grows c c' added := by
  cases act with
  | quiet still world =>
    refine ⟨[], .silent ?_ rfl ?_ (Nat.le_of_eq still.started.symm) ?_⟩
    · rw [still.history, List.append_nil]
    · rcases world with same | called
      · exact Nat.le_of_eq (congrArg Transports.now same.symm)
      · exact forward called
    · rw [still.races]
      exact fun _ member _ => member
  | deliver channel s => exact ⟨_, Client.grows_deliver h channel s⟩
  | install known distinct =>
    refine ⟨[], .silent (List.append_nil _).symm rfl (Nat.le_refl _) (Nat.le_succ _) ?_⟩
    intro r member old
    rcases List.mem_append.mp member with present | new
    · exact present
    · rw [List.mem_singleton.mp new] at old
      exact absurd old (Nat.lt_irrefl _)
  | release s =>
    obtain ⟨_, _, after⟩ := c.release_eq s.race
    rw [after]
    refine ⟨[], .silent (List.append_nil _).symm rfl (Nat.le_refl _) (Nat.le_refl _) ?_⟩
    exact fun r member _ => (List.mem_filter.mp member).1
  | opened current next chosen called =>
    exact ⟨_, .silent rfl rfl (forward called) (Nat.le_refl _) fun _ member _ => member⟩
  | recorded current same =>
    exact ⟨_, .silent rfl rfl (Nat.le_refl _) (Nat.le_refl _) fun _ member _ => member⟩
  | abandoned p => exact Client.grows_disconnect forward h p.channel.handle
  | unloaded => exact Client.grows_leave forward h c.session.unload c.pages rfl _
  | loaded response => exact Client.grows_leave forward h _ (c.pages + 1) rfl _
  | swap a b => exact ⟨[], .refl c⟩

theorem Acts.grows (h : Wired c k) (acts : Acts c k c' k') : ∃ added, Grows c c' added := by
  induction acts with
  | refl => exact ⟨[], .refl _⟩
  | step act _ ih =>
    obtain ⟨added, first⟩ := act.grows forward h
    obtain ⟨more, rest⟩ := ih (h.act act)
    exact ⟨_, first.trans rest⟩

/-- Whatever happens on a tab, the races hear what their channels dispatch. -/
theorem Tab.grows {t : Tab ω} (h : Wired t.client t.held) (event : TabEvent ω)
    (ahead : t.client.now ≤ (t.step event).client.now) :
    ∃ added, Grows t.client (t.step event).client added := by
  rcases t.step_cases event with ⟨world, today, rfl⟩ | ⟨_, others, before, acts, _⟩
  · exact ⟨[], .silent (List.append_nil _).symm rfl ahead (Nat.le_refl _) fun _ member _ => member⟩
  · exact (acts.frame others).grows forward (h.perm before)

end Forward

/-! ### What one race has heard -/

namespace Client

variable {s : Subscription} {race : RaceId} {heard : List Occurrence}

omit [Transports ω] in
/-- What a race in flight has collected. -/
def Heard (c : Client ω) (race : RaceId) (heard : List Occurrence) : Prop :=
  ∀ r ∈ c.races, r.id = race → r.queue = heard

omit [Transports ω] in
theorem Heard.queue (hears : c.Heard s.race heard) (h : Wired c k) (holds : .listeners s ∈ k) :
    (c.races.find? fun r => r.id = s.race).elim [] OpenRace.queue = heard := by
  obtain ⟨r, found, _, own⟩ := h.exists_race holds
  rw [found, Option.elim_some]
  exact hears r (List.mem_of_find?_eq_some found) own

omit [Transports ω] in
theorem heard_install (h : Wired c k) (channel : ChannelId) (events : List String) :
    (c.install channel events).1.Heard c.started [] := by
  intro r member own
  rcases List.mem_append.mp member with old | new
  · have started : r.bare.id < c.started := h.started r.bare (List.mem_map_of_mem old)
    exact absurd own (Nat.ne_of_lt started)
  · rw [List.mem_singleton.mp new]

theorem Heard.grows (hears : c.Heard s.race heard) (h : Wired c k) (holds : .listeners s ∈ k)
    (grows : Grows c c' more) :
    c'.Heard s.race (heard ++ occurrences s.channel s.events more) := by
  intro r' member' own'
  obtain ⟨r, member, bare, queue⟩ := grows.queues r' member' (own' ▸ h.lt_started holds)
  obtain ⟨id, -, -⟩ := OpenRace.eq_of_bare bare
  have own : r.id = s.race := id.symm.trans own'
  have same := h.subscription_eq holds (List.mem_map_of_mem member) own
  have on : r.channel = s.channel := congrArg Subscription.channel same
  have names : r.listeners.map Prod.fst = s.events := congrArg Subscription.events same
  rw [queue, hears r member own, on, names]

end Client

end LiveSession
