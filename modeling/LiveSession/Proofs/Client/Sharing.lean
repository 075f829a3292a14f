import LiveSession.Proofs.Client.Chronicle
import LiveSession.Proofs.Connection.Placement

/-!
# Which channels of a page share a connection

The first channel of a page starts a connection, and the others are to share it. Whether a channel is
the first is decided when it is opened, by what is recorded then: several that are opened before one
of them is recorded all start a connection of their own. `connection_shared` says exactly when the
channels of a page share one connection.
-/

namespace LiveSession

def PagedChannel.forces (r : PagedChannel) : Bool := r.2.config.forceNew

variable {ω : Type} {c : Client ω} {k : List Held} {page : PageId} {first : SocketChannel}
  {before after : List ChannelEvent}

/-- The number of the connection of a channel: how many have been started until it was opened. -/
def Client.line (c : Client ω) (handle : ChannelId) : Nat :=
  (c.openings.take (handle + 1)).countP PagedChannel.forces

/-! ### Places among the openings -/

theorem Charted.handle_eq (h : Charted c k) {l rest : List PagedChannel} {o : PagedChannel}
    (split : c.openings = l ++ o :: rest) : o.handle = l.length := by
  have handles := h.openings
  rw [split, List.map_append, List.map_cons] at handles
  have at_ := congrArg (fun hs : List ChannelId => hs[l.length]?) handles
  have bound : l.length < c.channels.length := by
    have count := congrArg List.length handles
    simp at count
    omega
  simpa [List.getElem?_range bound] using at_

theorem Charted.line_eq (h : Charted c k) {l rest : List PagedChannel} {o : PagedChannel}
    (split : c.openings = l ++ o :: rest) :
    c.line o.handle = (l ++ [o]).countP PagedChannel.forces := by
  unfold Client.line
  rw [h.handle_eq split, split, List.append_cons]
  have length : (l ++ [o]).length = l.length + 1 := List.length_append
  rw [← length, List.take_left]

/-! ### Before and after the first recording of a page -/

/-- The history up to the first recording of a page, and from there on. -/
structure FirstRecorded (history : List ChannelEvent) (page : PageId) (first : SocketChannel)
    (before after : List ChannelEvent) : Prop where
  told : Chronicle [] history
  split : history = before ++ .recorded page first :: after
  none_yet : ∀ r ∈ recordingsOf before, r.1 ≠ page

namespace FirstRecorded

variable {history : List ChannelEvent} {channel : SocketChannel}

theorem openings (h : FirstRecorded history page first before after) :
    openingsOf history = openingsOf before ++ openingsOf after := by
  rw [h.split, openingsOf_recorded]

theorem first_opened (h : FirstRecorded history page first before after) :
    (page, first) ∈ openingsOf before := by
  have told := h.told
  rw [h.split] at told
  exact told.follows.1

theorem forces (h : FirstRecorded history page first before after)
    (opened : (page, channel) ∈ openingsOf before) : channel.config.forceNew = true := by
  obtain ⟨earlier, between, rfl⟩ := exists_opened opened
  have told := h.told
  rw [h.split, List.append_assoc, List.cons_append] at told
  refine told.follows.2.1.mpr fun r member => h.none_yet r ?_
  rw [recordingsOf_opened]
  exact List.mem_append_left _ member

theorem shares (h : FirstRecorded history page first before after)
    (opened : (page, channel) ∈ openingsOf after) : channel.config.forceNew = false := by
  obtain ⟨between, later, rfl⟩ := exists_opened opened
  have told := h.told
  rw [h.split, ← List.cons_append, ← List.append_assoc] at told
  refine Bool.eq_false_iff.mpr fun forced => told.follows.2.1.mp forced (page, first) ?_ rfl
  rw [recordingsOf_recorded]
  exact List.mem_append_right _ List.mem_cons_self

/-- Of the channels of a page exactly those that are opened before start a connection. -/
theorem forces_iff (h : FirstRecorded history page first before after) {r : PagedChannel}
    (own : r.1 = page) (opened : r ∈ openingsOf history) :
    r.2.config.forceNew = true ↔ r ∈ openingsOf before := by
  obtain ⟨_, channel⟩ := r
  cases own
  refine ⟨fun forced => ?_, h.forces⟩
  rw [h.openings] at opened
  refine (List.mem_append.mp opened).resolve_right fun later => ?_
  rw [h.shares later] at forced
  cases forced

/-- What is opened between the first channel and another one of its page is of that page too. -/
theorem page_eq (h : FirstRecorded history page first before after) {m rest : List PagedChannel}
    (opened : openingsOf after = m ++ (page, channel) :: rest) : ∀ o ∈ m, o.1 = page := by
  intro o member
  have sorted := h.told.sorted
  rw [h.openings, opened] at sorted
  obtain ⟨_, within, across⟩ := List.pairwise_append.mp sorted
  refine Nat.le_antisymm ?_ (across _ h.first_opened o (List.mem_append_left _ member))
  exact (List.pairwise_append.mp within).2.2 o member _ List.mem_cons_self

/-- What is opened between the first channel and its recording is of its page too. -/
theorem page_eq_of_before (h : FirstRecorded history page first before after)
    {l : List PagedChannel} {o : PagedChannel} (opened : openingsOf before = l ++ [o])
    (earlier : (page, first) ∈ l) : o.1 = page := by
  have sorted := h.told.sorted
  rw [h.openings, opened] at sorted
  have told := h.told
  rw [h.split] at told
  refine Nat.le_antisymm (told.follows.2 o ?_) ?_
  · rw [opened]
    exact List.mem_append_right _ List.mem_cons_self
  · have within := (List.pairwise_append.mp sorted).1
    exact (List.pairwise_append.mp within).2.2 _ earlier o List.mem_cons_self

end FirstRecorded

/-- The first channel shares its connection with one that was opened after its recording, if it was
the last one to be opened before. -/
theorem line_eq_of_after (charted : Charted c k)
    (h : FirstRecorded c.history page first before after)
    (last : (openingsOf before).getLast? = some (page, first)) {channel : SocketChannel}
    (opened : (page, channel) ∈ openingsOf after) :
    c.line channel.handle = c.line first.handle := by
  obtain ⟨l, before_eq⟩ := List.getLast?_eq_some_iff.mp last
  obtain ⟨m, rest, after_eq⟩ := List.append_of_mem opened
  have whole : c.openings = (l ++ [(page, first)] ++ m) ++ (page, channel) :: rest := by
    simp [Client.openings, h.openings, before_eq, after_eq]
  have whole' : c.openings = l ++ (page, first) :: (m ++ (page, channel) :: rest) := by
    simp [whole]
  have unforced (o : PagedChannel) (member : o ∈ m) : ¬ o.forces = true := by
    have later : (page, o.2) ∈ openingsOf after := by
      rw [after_eq, ← h.page_eq after_eq o member]
      exact List.mem_append_left _ member
    exact Bool.eq_false_iff.mp (h.shares later)
  have line := charted.line_eq whole
  have line' := charted.line_eq whole'
  rw [List.countP_append, List.countP_append, List.countP_eq_zero.mpr unforced,
    List.countP_singleton, PagedChannel.forces, h.shares opened] at line
  exact line.trans line'.symm

/-- It is the last one to be opened before, if it shares its connection with one opened after. -/
theorem last_of_line_eq (charted : Charted c k)
    (h : FirstRecorded c.history page first before after) {channel : SocketChannel}
    (opened : (page, channel) ∈ openingsOf after)
    (same : c.line channel.handle = c.line first.handle) :
    (openingsOf before).getLast? = some (page, first) := by
  have mine := h.first_opened
  obtain ⟨m, rest, after_eq⟩ := List.append_of_mem opened
  rcases List.eq_nil_or_concat' (openingsOf before) with nothing | ⟨l, o, before_eq⟩
  · rw [nothing] at mine
    cases mine
  rw [before_eq, List.getLast?_concat]
  rw [before_eq] at mine
  rcases List.mem_append.mp mine with earlier | last
  · -- Another one was opened before the recording, so it started a connection as well.
    have between : (page, o.2) ∈ openingsOf before := by
      rw [before_eq, ← h.page_eq_of_before before_eq earlier]
      exact List.mem_append_right _ List.mem_cons_self
    have forces : o.forces = true := h.forces between
    obtain ⟨l₁, l₂, rfl⟩ := List.append_of_mem earlier
    have whole : c.openings =
        (l₁ ++ [(page, first)] ++ l₂ ++ [o] ++ m) ++ (page, channel) :: rest := by
      simp [Client.openings, h.openings, before_eq, after_eq]
    have whole' : c.openings =
        l₁ ++ (page, first) :: (l₂ ++ [o] ++ m ++ (page, channel) :: rest) := by
      simp [whole]
    have line := charted.line_eq whole
    have line' := charted.line_eq whole'
    simp only [List.countP_append, List.countP_singleton, forces, if_true] at line line'
    have equal : c.line (PagedChannel.handle (page, channel)) =
        c.line (PagedChannel.handle (page, first)) := same
    omega
  · rw [List.mem_singleton.mp last]

/-- Channels of a page share the connection of the first one exactly when it is the last one to be
opened before its recording, and they are opened after. -/
theorem shared_iff (charted : Charted c k) (h : FirstRecorded c.history page first before after)
    {others : List PagedChannel} (own : ∀ r ∈ others, r.1 = page ∧ r ∈ c.openings) :
    (∀ r ∈ others, r.2.config.forceNew = false ∧ c.line r.handle = c.line first.handle) ↔
      others = [] ∨ (openingsOf before).getLast? = some (page, first) ∧
        ∀ r ∈ others, r ∈ openingsOf after := by
  constructor
  · intro all
    have later (r : PagedChannel) (member : r ∈ others) : r ∈ openingsOf after := by
      obtain ⟨same, opened⟩ := own r member
      have unforced := Bool.eq_false_iff.mp (all r member).1
      rw [Ne, h.forces_iff same opened] at unforced
      rw [Client.openings, h.openings] at opened
      exact (List.mem_append.mp opened).resolve_left unforced
    cases others with
    | nil => exact .inl rfl
    | cons r others =>
      obtain ⟨rfl, -⟩ := own r List.mem_cons_self
      have last := last_of_line_eq charted h (later r List.mem_cons_self) (all r List.mem_cons_self).2
      exact .inr ⟨last, later⟩
  · rintro (rfl | ⟨last, later⟩) r member
    · cases member
    · obtain ⟨rfl, -⟩ := own r member
      exact ⟨h.shares (later r member), line_eq_of_after charted h last (later r member)⟩

open Multiplexer in
/-- The number of a connection is the place that a multiplexer gives the channel. -/
theorem Charted.exists_place (h : Charted c k) {handshake : Url} {events : List MultiplexerEvent}
    (unbroken : Unbroken handshake {} events)
    (configs : configsOf events = c.openings.map fun r => r.2.config) {r : PagedChannel}
    (opened : r ∈ c.openings) :
    ∃ hub, (places {} events)[r.handle]? = some hub ∧ hub + 1 = c.line r.handle := by
  obtain ⟨l, rest, split⟩ := List.append_of_mem opened
  have number := h.handle_eq split
  have below : r.handle < (configsOf events).length := by
    rw [configs, List.length_map, split, number]
    simp
  obtain ⟨hub, found, started⟩ := places_eq (m := {}) nofun events unbroken below
  refine ⟨hub, found, started.trans ?_⟩
  rw [configs, Client.line, ← List.map_take, List.countP_map]
  exact Nat.zero_add _

namespace Tab

open Multiplexer

variable [Transports ω] {t : Tab ω}

/-- Of the channels that are recorded on a page, exactly those that were opened before the first
recording start a connection of their own. All of them share the connection of the first one exactly
when no channel at all was opened between the first one and its recording, and no other one of them
before. The number of a connection is the place that a multiplexer gives it, if all channels go to one
origin and each finds the connection that was started last. -/
theorem Reachable.connection_shared (reachable : Reachable t) {page : PageId}
    {first : PagedChannel} {others : List PagedChannel}
    (recorded : t.client.recordings.filter (fun r => r.1 = page) = first :: others) :
    (∃ before after, t.client.history = before ++ .recorded first.1 first.2 :: after ∧
      (∀ r ∈ first :: others, r.2.config.forceNew = true ↔ r ∈ openingsOf before) ∧
      ((∀ r ∈ others, r.2.config.forceNew = false ∧
          t.client.line r.handle = t.client.line first.handle) ↔
        others = [] ∨ (openingsOf before).getLast? = some first ∧
          ∀ r ∈ others, r ∈ openingsOf after)) ∧
      ∀ (handshake : Url) (events : List MultiplexerEvent), Unbroken handshake {} events →
        configsOf events = t.client.openings.map (fun r => r.2.config) →
        ∀ r ∈ t.client.openings, ∃ hub, (places {} events)[r.handle]? = some hub ∧
          hub + 1 = t.client.line r.handle := by
  have charted := reachable.charted
  refine ⟨?_, fun handshake events unbroken configs r => charted.exists_place unbroken configs⟩
  obtain ⟨before, after, split, rfl, none_yet, -⟩ := exists_first_recorded recorded
  have h : FirstRecorded t.client.history first.1 first.2 before after :=
    ⟨reachable.chronicled.told, split, none_yet⟩
  have own (r : PagedChannel) (member : r ∈ first :: others) :
      r.1 = first.1 ∧ r ∈ t.client.openings := by
    rw [← recorded] at member
    obtain ⟨old, same⟩ := List.mem_filter.mp member
    exact ⟨of_decide_eq_true same, charted.recorded r old⟩
  refine ⟨before, after, split, fun r member => h.forces_iff (own r member).1 (own r member).2, ?_⟩
  exact shared_iff charted h fun r member => own r (List.mem_cons_of_mem _ member)

/-- A second channel is opened when the first one is recorded. -/
theorem connection_shared_chat :
    let t := connected.step (.dispatch (.connect { ns := some "/chat" }))
    ∃ first other before after, t.client.recordings.filter (fun r => r.1 = 0) = [first, other] ∧
      t.client.history = before ++ .recorded first.1 first.2 :: after ∧
      (openingsOf before).getLast? = some first ∧ other ∈ openingsOf after := by
  intro t
  have reachable : Reachable t := connected_reachable.step _
  have lines : (t.client.recordings.filter fun r => r.1 = 0).map
      (fun r => (r.2.config.forceNew, t.client.line r.handle)) = [(true, 1), (false, 1)] := by
    decide +kernel
  obtain ⟨first, rest, recorded, start, lines⟩ := List.map_eq_cons_iff.mp lines
  obtain ⟨other, rest, rfl, shared, nothing⟩ := List.map_eq_cons_iff.mp lines
  cases List.map_eq_nil_iff.mp nothing
  obtain ⟨⟨before, after, split, -, iff⟩, -⟩ := Reachable.connection_shared reachable recorded
  have all : ∀ r ∈ [other], r.2.config.forceNew = false ∧
      t.client.line r.handle = t.client.line first.handle := by
    intro r member
    cases List.mem_singleton.mp member
    obtain ⟨unforced, line⟩ := Prod.mk.inj shared
    exact ⟨unforced, line.trans (Prod.mk.inj start).2.symm⟩
  obtain ⟨last, later⟩ := (iff.mp all).resolve_left nofun
  exact ⟨first, other, before, after, recorded, split, last, later other List.mem_cons_self⟩

/-- Two channels of a page for different namespaces whose attempts overlap: the server answers the
first attempt when the second one has begun. -/
def overlapping : Tab Scenario.Servers :=
  let slow : Scenario.Servers :=
    { connected.client.world with behavior := { kind := .never } }
  connected.run
    [.dispatch (.get "/"), .pass slow 0, .dispatch (.connect {}),
      .dispatch (.connect { ns := some "/chat" }), .fire 1 ⟨connectEvent, []⟩, .poll 3,
      .fire 2 ⟨connectEvent, []⟩, .poll 4]

theorem not_shared_of_overlapping :
    Reachable overlapping ∧
      (overlapping.client.session.page.map fun p => p.channels.names) = some ["", "/chat"] ∧
      (overlapping.client.session.page.map fun p =>
        p.channels.map fun e => e.2.config.forceNew) = some [true, true] ∧
      (overlapping.client.session.page.map fun p =>
        p.channels.map fun e => overlapping.client.line e.2.handle) = some [2, 3] :=
  ⟨connected_reachable.run _, by decide +kernel, by decide +kernel, by decide +kernel⟩

end Tab

end LiveSession
