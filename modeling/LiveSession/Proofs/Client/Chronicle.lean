import LiveSession.Proofs.Client.Charting

/-!
# What the history says about its past

`Chronicle` says of each opening and each recording in the history of a client what was before it: a
channel is opened with a connection of its own exactly when none of its page is recorded yet, nothing
is recorded that was not opened, and pages come one after the other. Every act keeps it.
-/

namespace LiveSession

/-- What an event in a history says about the events before it. -/
def ChannelEvent.Follows (past : List ChannelEvent) : ChannelEvent → Prop
  | opened page channel =>
    channel.config.autoConnect = false ∧
      (channel.config.forceNew = true ↔ ∀ r ∈ recordingsOf past, r.1 ≠ page) ∧
      ∀ o ∈ openingsOf past, o.1 ≤ page
  | recorded page channel =>
    (page, channel) ∈ openingsOf past ∧ ∀ o ∈ openingsOf past, o.1 ≤ page
  | dispatched .. => True

/-- Each event follows those before it. -/
def Chronicle (past : List ChannelEvent) : List ChannelEvent → Prop
  | [] => True
  | e :: rest => e.Follows past ∧ Chronicle (past ++ [e]) rest

section Chronicle

variable {past history more : List ChannelEvent} {page : PageId} {channel : SocketChannel}

theorem chronicle_append :
    Chronicle past (history ++ more) ↔ Chronicle past history ∧ Chronicle (past ++ history) more := by
  induction history generalizing past with
  | nil => simp [Chronicle]
  | cons e history ih => simp [Chronicle, ih, and_assoc]

theorem chronicle_concat (e : ChannelEvent) :
    Chronicle past (history ++ [e]) ↔ Chronicle past history ∧ e.Follows (past ++ history) := by
  rw [chronicle_append, Chronicle, Chronicle, and_true]

theorem chronicle_dispatched (heard : List (ChannelId × Occurrence)) :
    Chronicle past (heard.map fun h => .dispatched h.1 h.2) := by
  induction heard generalizing past with
  | nil => trivial
  | cons h heard ih => exact ⟨trivial, ih⟩

theorem Chronicle.follows {before after : List ChannelEvent} {e : ChannelEvent}
    (told : Chronicle [] (before ++ e :: after)) : e.Follows before := by
  rw [chronicle_append, List.nil_append] at told
  exact told.2.1

theorem openingsOf_recorded (before after : List ChannelEvent) :
    openingsOf (before ++ .recorded page channel :: after) =
      openingsOf before ++ openingsOf after := openingsOf_append _ _

theorem recordingsOf_opened (before after : List ChannelEvent) :
    recordingsOf (before ++ .opened page channel :: after) =
      recordingsOf before ++ recordingsOf after := recordingsOf_append _ _

theorem recordingsOf_recorded (before after : List ChannelEvent) :
    recordingsOf (before ++ .recorded page channel :: after) =
      recordingsOf before ++ (page, channel) :: recordingsOf after := recordingsOf_append _ _

theorem exists_opened {r : PagedChannel} (opened : r ∈ openingsOf history) :
    ∃ before after, history = before ++ .opened r.1 r.2 :: after := by
  obtain ⟨e, member, opening⟩ := List.mem_filterMap.mp opened
  obtain ⟨before, after, rfl⟩ := List.append_of_mem member
  cases e with
  | opened page channel =>
    cases opening
    exact ⟨before, after, rfl⟩
  | recorded | dispatched => cases opening

theorem exists_first_recorded {first : PagedChannel} {others : List PagedChannel}
    (recorded : (recordingsOf history).filter (fun r => r.1 = page) = first :: others) :
    ∃ before after, history = before ++ .recorded first.1 first.2 :: after ∧ first.1 = page ∧
      (∀ r ∈ recordingsOf before, r.1 ≠ page) ∧
      (recordingsOf after).filter (fun r => r.1 = page) = others := by
  obtain ⟨earlier, rest, all, none_yet, own, others_eq⟩ := List.filter_eq_cons_iff.mp recorded
  obtain ⟨history₁, history₂, rfl, before_eq, rest_eq⟩ := List.filterMap_eq_append_iff.mp all
  obtain ⟨silent, e, after, rfl, nothing, is_first, after_eq⟩ :=
    List.filterMap_eq_cons_iff.mp rest_eq
  have silent_eq : recordingsOf silent = [] := List.filterMap_eq_nil_iff.mpr nothing
  refine ⟨history₁ ++ silent, after, ?_, of_decide_eq_true own, ?_, ?_⟩
  · cases e with
    | recorded page channel =>
      cases is_first
      rw [List.append_assoc]
    | opened | dispatched => cases is_first
  · rw [recordingsOf_append, silent_eq, List.append_nil]
    intro r member same
    exact none_yet r (before_eq ▸ member) (decide_eq_true same)
  · exact (congrArg (List.filter _) after_eq).trans others_eq

theorem Chronicle.sorted (told : Chronicle [] history) :
    (openingsOf history).Pairwise fun o o' => o.1 ≤ o'.1 := by
  induction history using List.reverseRecOn with
  | nil => exact .nil
  | append_singleton history e ih =>
    obtain ⟨told, follows⟩ := (chronicle_concat e).mp told
    rw [openingsOf_append]
    refine List.pairwise_append.mpr ⟨ih told, ?_, ?_⟩
    · cases e with
      | opened => exact List.pairwise_singleton _ _
      | recorded | dispatched => exact .nil
    · intro o before o' new
      cases e with
      | opened page channel =>
        cases List.mem_singleton.mp new
        exact follows.2.2 o before
      | recorded | dispatched => cases new

end Chronicle

variable {ω : Type} {c c' : Client ω} {k k' : List Held}

/-- The history is a chronicle, and the current page is the latest. -/
structure Chronicled (c : Client ω) : Prop where
  told : Chronicle [] c.history
  pages : ∀ o ∈ c.openings, o.1 < c.pages
  latest : ∀ page, c.session.page = some page → page.id + 1 = c.pages

namespace Chronicled

theorem hear (h : Chronicled c)
    (history : ∃ heard : List (ChannelId × Occurrence),
      c'.history = c.history ++ heard.map fun h => .dispatched h.1 h.2)
    (pages : c.pages ≤ c'.pages)
    (latest : ∀ page, c'.session.page = some page → page.id + 1 = c'.pages) : Chronicled c' := by
  obtain ⟨heard, history⟩ := history
  have openings : c'.openings = c.openings := by
    unfold Client.openings
    rw [history, openingsOf_append, openingsOf_dispatched, List.append_nil]
  refine ⟨?_, ?_, latest⟩
  · rw [history]
    exact chronicle_append.mpr ⟨h.told, chronicle_dispatched heard⟩
  · rw [openings]
    exact fun o member => Nat.lt_of_lt_of_le (h.pages o member) pages

theorem of_eq (h : Chronicled c) (history : c'.history = c.history) (pages : c'.pages = c.pages)
    (page : c'.session.page = c.session.page) : Chronicled c' := by
  refine h.hear ⟨[], by rw [history, List.map_nil, List.append_nil]⟩ (Nat.le_of_eq pages.symm) ?_
  rw [page, pages]
  exact h.latest

theorem closes (h : Chronicled c) {closed : List ChannelId} (closes : Client.Closes closed c c') :
    Chronicled c' := by
  refine h.hear closes.history (Nat.le_of_eq closes.pages.symm) ?_
  rw [closes.session, closes.pages]
  exact h.latest

theorem le_current (h : Chronicled c) {page : Page} (current : c.session.page = some page) :
    ∀ o ∈ c.openings, o.1 ≤ page.id := by
  intro o member
  have below := h.pages o member
  rw [← h.latest page current] at below
  exact Nat.le_of_lt_succ below

theorem act [Transports ω] (h : Chronicled c) (charted : Charted c k) (act : Act c k c' k') :
    Chronicled c' := by
  cases act with
  | quiet still world => exact h.of_eq still.history still.pages still.page
  | deliver channel s => exact h.closes (Client.closes_deliver c channel s)
  | install known distinct => exact h.of_eq rfl rfl rfl
  | release s =>
    obtain ⟨_, _, after⟩ := c.release_eq s.race
    rw [after]
    exact h.of_eq rfl rfl rfl
  | opened current next chosen called =>
    rename_i page channel world
    obtain ⟨forced, manual⟩ := chosen
    obtain ⟨below, channels⟩ := charted.page page current
    refine ⟨(chronicle_concat _).mpr ⟨h.told, manual, ?_, h.le_current current⟩, ?_, h.latest⟩
    · rw [forced, channels, List.isEmpty_iff]
      exact channelsOf_eq_nil_iff
    · show ∀ o ∈ openingsOf (c.history ++ [.opened page.id channel]), o.1 < c.pages
      rw [openingsOf_append]
      intro o member
      rcases List.mem_append.mp member with old | new
      · exact h.pages o old
      · cases List.mem_singleton.mp new
        exact below
  | recorded current same =>
    rename_i page p
    have below := h.le_current current
    rw [same] at below
    refine ⟨(chronicle_concat _).mpr ⟨h.told, charted.pending p List.mem_cons_self, below⟩, ?_, ?_⟩
    · show ∀ o ∈ openingsOf (c.history ++ [.recorded p.page p.channel]), o.1 < c.pages
      rw [openingsOf_append]
      exact fun o member => h.pages o ((List.mem_append.mp member).resolve_right nofun)
    · show ∀ page : Page, (c.session.record p.channel).page = some page → page.id + 1 = c.pages
      unfold Session.record
      rw [current]
      rintro page' ⟨⟩
      exact h.latest page current
  | abandoned p => exact h.closes (Client.closes_disconnect c p.channel.handle)
  | unloaded =>
    have closes := Client.closes_unloadPage c
    refine h.hear closes.history (Nat.le_of_eq closes.pages.symm) ?_
    rw [closes.session]
    exact nofun
  | loaded response =>
    have closes := Client.closes_loadPage c response
    refine h.hear closes.history (by rw [closes.pages]; exact Nat.le_succ _) ?_
    rw [closes.session, closes.pages]
    intro page current
    cases current
    rfl
  | swap a b => exact h

end Chronicled

theorem Chronicled.acts [Transports ω] (h : Chronicled c) (charted : Charted c k)
    (acts : Acts c k c' k') : Chronicled c' := by
  induction acts with
  | refl => exact h
  | step act _ ih => exact ih (h.act charted act) (charted.act act)

theorem Tab.Reachable.chronicled [Transports ω] {t : Tab ω} (reachable : Reachable t) :
    Chronicled t.client := by
  induction reachable with
  | fresh profile world today sources => exact ⟨trivial, nofun, nofun⟩
  | @step t event reachable ih =>
    rcases t.step_cases event with ⟨world, today, rfl⟩ | ⟨after, others, before, acts, now⟩
    · exact ih.of_eq rfl rfl rfl
    · exact ih.acts (reachable.charted.perm before) (acts.frame others)

end LiveSession
