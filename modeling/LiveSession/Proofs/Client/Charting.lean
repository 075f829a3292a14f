import LiveSession.Proofs.Client.Recordings
import LiveSession.Proofs.Client.Steps

/-!
# Channels of a client

`Charted` accounts for every channel that a client has opened: what the history says of it, who
holds it, and how often it was closed. A channel that is held is open; one that is recorded is open
as long as its page is there, or another one took its place; any other was closed once. Each act
keeps that.
-/

namespace LiveSession

variable {ω : Type} {c c' : Client ω} {k k' : List Held}

namespace Client

def openings (c : Client ω) : List PagedChannel := openingsOf c.history

def recordings (c : Client ω) : List PagedChannel := recordingsOf c.history

def pageId? (c : Client ω) : Option PageId := c.session.page.map Page.id

end Client

def pendingHandles (k : List Held) : List ChannelId :=
  (k.filterMap Held.pending?).map fun p => p.channel.handle

/-- No later recording took the place of this one. -/
def Standing (rs : List PagedChannel) (r : PagedChannel) : Prop :=
  (channelsOf r.1 rs).find? r.2.ns = some r.2

structure Charted (c : Client ω) (k : List Held) : Prop where
  openings : c.openings.map PagedChannel.handle = List.range c.channels.length
  pending : ∀ p, .channel p ∈ k → (p.page, p.channel) ∈ c.openings
  recorded : ∀ r ∈ c.recordings, r ∈ c.openings
  distinct : (pendingHandles k ++ c.recordings.map PagedChannel.handle).Nodup
  pages : ∀ r ∈ c.recordings, r.1 < c.pages
  page : ∀ page, c.session.page = some page →
    page.id < c.pages ∧ page.channels = channelsOf page.id c.recordings
  held : ∀ handle ∈ pendingHandles k, closings handle c.log = 0
  left : ∀ r ∈ c.recordings, Standing c.recordings r → c.pageId? ≠ some r.1 →
    closings r.handle c.log = 1
  kept : ∀ r ∈ c.recordings, (Standing c.recordings r → c.pageId? = some r.1) →
    closings r.handle c.log = 0
  abandoned : ∀ handle < c.channels.length, handle ∉ pendingHandles k →
    handle ∉ c.recordings.map PagedChannel.handle → closings handle c.log = 1
  unopened : ∀ handle, c.channels.length ≤ handle → closings handle c.log = 0

theorem Client.Closes.openings_eq {closed : List ChannelId} (closes : Client.Closes closed c c') :
    c'.openings = c.openings := by
  obtain ⟨heard, history⟩ := closes.history
  unfold Client.openings
  rw [history, openingsOf_append, openingsOf_dispatched, List.append_nil]

theorem Client.Closes.recordings_eq {closed : List ChannelId}
    (closes : Client.Closes closed c c') : c'.recordings = c.recordings := by
  obtain ⟨heard, history⟩ := closes.history
  unfold Client.recordings
  rw [history, recordingsOf_append, recordingsOf_dispatched, List.append_nil]

theorem Client.Closes.closings_eq {closed : List ChannelId} (closes : Client.Closes closed c c')
    (handle : ChannelId) : closings handle c'.log = closings handle c.log + closed.count handle := by
  rw [closes.log, closings_append, closings_disconnects]

theorem mem_pendingHandles {handle : ChannelId} :
    handle ∈ pendingHandles k ↔ ∃ p, .channel p ∈ k ∧ p.channel.handle = handle := by
  unfold pendingHandles
  constructor
  · intro member
    obtain ⟨p, pending, same⟩ := List.mem_map.mp member
    obtain ⟨h, holds, isPending⟩ := List.mem_filterMap.mp pending
    cases h with
    | listeners s => cases isPending
    | channel p' =>
      cases isPending
      exact ⟨p, holds, same⟩
  · rintro ⟨p, holds, same⟩
    exact List.mem_map.mpr ⟨p, List.mem_filterMap.mpr ⟨_, holds, rfl⟩, same⟩

namespace Charted

theorem perm (h : Charted c k) (perm : k.Perm k') : Charted c k' := by
  have handles : (pendingHandles k).Perm (pendingHandles k') := (perm.filterMap _).map _
  exact { h with
    pending := fun p holds => h.pending p (perm.mem_iff.mpr holds)
    distinct := ((handles.append_right _).nodup_iff).mp h.distinct
    held := fun handle member => h.held handle (handles.mem_iff.mpr member)
    abandoned := fun handle below free =>
      h.abandoned handle below fun member => free (handles.mem_iff.mp member) }

theorem recordings_nodup (h : Charted c k) : (c.recordings.map PagedChannel.handle).Nodup :=
  (List.nodup_append.mp h.distinct).2.1

theorem not_recorded (h : Charted c k) {handle : ChannelId} (held : handle ∈ pendingHandles k) :
    handle ∉ c.recordings.map PagedChannel.handle := by
  intro member
  exact (List.nodup_append.mp h.distinct).2.2 handle held handle member rfl

theorem lt_of_opened (h : Charted c k) {r : PagedChannel} (opened : r ∈ c.openings) :
    r.handle < c.channels.length := by
  have member : r.handle ∈ c.openings.map PagedChannel.handle := List.mem_map_of_mem opened
  rw [h.openings] at member
  exact List.mem_range.mp member

theorem eq_of_opened (h : Charted c k) {r r' : PagedChannel} (opened : r ∈ c.openings)
    (opened' : r' ∈ c.openings) (same : r.handle = r'.handle) : r = r' := by
  refine eq_of_handle ?_ opened opened' same
  rw [h.openings]
  exact List.nodup_range

theorem lt_of_recorded (h : Charted c k) {handle : ChannelId}
    (member : handle ∈ c.recordings.map PagedChannel.handle) : handle < c.channels.length := by
  obtain ⟨r, recorded, rfl⟩ := List.mem_map.mp member
  exact h.lt_of_opened (h.recorded r recorded)

theorem of_eq (h : Charted c k) (channels : c'.channels.length = c.channels.length)
    (openings : c'.openings = c.openings) (recordings : c'.recordings = c.recordings)
    (pages : c'.pages = c.pages) (page : c'.session.page = c.session.page)
    (closed : ∀ handle, closings handle c'.log = closings handle c.log) : Charted c' k := by
  have pageId : c'.pageId? = c.pageId? := congrArg (Option.map Page.id) page
  constructor
  case openings =>
    rw [openings, channels]
    exact h.openings
  case pending =>
    rw [openings]
    exact h.pending
  case recorded =>
    rw [openings, recordings]
    exact h.recorded
  case distinct =>
    rw [recordings]
    exact h.distinct
  case pages =>
    rw [recordings, pages]
    exact h.pages
  case page =>
    rw [recordings, pages, page]
    exact h.page
  case held =>
    simp only [closed]
    exact h.held
  case left =>
    simp only [recordings, pageId, closed]
    exact h.left
  case kept =>
    simp only [recordings, pageId, closed]
    exact h.kept
  case abandoned =>
    simp only [channels, recordings, closed]
    exact h.abandoned
  case unopened =>
    simp only [channels, closed]
    exact h.unopened

/-! ### Pages -/

theorem mem_channels (h : Charted c k) {channel : SocketChannel} :
    channel ∈ c.session.channels ↔
      ∃ page, c.pageId? = some page ∧ (page, channel) ∈ c.recordings ∧
        Standing c.recordings (page, channel) := by
  unfold Client.pageId? Session.channels
  cases current : c.session.page with
  | none => simp
  | some page =>
    obtain ⟨_, channels⟩ := h.page page current
    dsimp only
    rw [channels]
    constructor
    · intro member
      obtain ⟨e, entry, rfl⟩ := List.mem_map.mp member
      obtain ⟨recorded, name⟩ := mem_of_mem_channelsOf entry
      refine ⟨page.id, rfl, recorded, ?_⟩
      unfold Standing
      rw [← name]
      exact Entries.find?_of_mem (nodup_names_channelsOf _ _) entry
    · rintro ⟨_, same, _, standing⟩
      cases same
      exact List.mem_map.mpr ⟨_, Entries.mem_of_find? standing, rfl⟩

theorem nodup_channels (h : Charted c k) : (c.session.channels.map SocketChannel.handle).Nodup := by
  unfold Session.channels
  cases current : c.session.page with
  | none => exact List.nodup_nil
  | some page =>
    obtain ⟨_, channels⟩ := h.page page current
    dsimp only
    rw [channels, List.map_map]
    have names := nodup_names_channelsOf page.id c.recordings
    refine List.Nodup.map_on ?_ names.of_map
    intro e entry e' entry' same
    obtain ⟨recorded, name⟩ := mem_of_mem_channelsOf entry
    obtain ⟨recorded', name'⟩ := mem_of_mem_channelsOf entry'
    have one := eq_of_handle h.recordings_nodup recorded recorded' same
    have channel : e.2 = e'.2 := (Prod.mk.inj one).2
    exact Prod.ext (by rw [name, name', channel]) channel

theorem leave (h : Charted c k) {c₁ : Client ω}
    (closes : Client.Closes (c.session.channels.map SocketChannel.handle) c₁ c')
    (channels : c₁.channels = c.channels) (history : c₁.history = c.history)
    (log : c₁.log = c.log) (pages : c.pages ≤ c₁.pages)
    (new : ∀ page, c₁.session.page = some page →
      page.id = c.pages ∧ c.pages < c₁.pages ∧ page.channels = []) :
    Charted c' k := by
  have openings : c'.openings = c.openings :=
    closes.openings_eq.trans (congrArg openingsOf history)
  have recordings : c'.recordings = c.recordings :=
    closes.recordings_eq.trans (congrArg recordingsOf history)
  have length : c'.channels.length = c.channels.length :=
    congrArg List.length (closes.channels.trans channels)
  have closed (handle : ChannelId) : closings handle c'.log =
      closings handle c.log + (c.session.channels.map SocketChannel.handle).count handle := by
    rw [closes.closings_eq, log]
  have untouched {handle : ChannelId} (other : ∀ ch ∈ c.session.channels, ch.handle ≠ handle) :
      closings handle c'.log = closings handle c.log := by
    rw [closed, List.count_eq_zero_of_not_mem, Nat.add_zero]
    intro member
    obtain ⟨ch, current, same⟩ := List.mem_map.mp member
    exact other ch current same
  -- The number of a page is new, so what was recorded before belongs to none of the pages to come.
  have elsewhere (r : PagedChannel) (member : r ∈ c.recordings) : c'.pageId? ≠ some r.1 := by
    unfold Client.pageId?
    rw [closes.session]
    intro same
    obtain ⟨page, current, id⟩ := Option.map_eq_some_iff.mp same
    have old := h.pages r member
    rw [← id, (new page current).1] at old
    exact Nat.lt_irrefl _ old
  have recorded_of_current {ch : SocketChannel} (current : ch ∈ c.session.channels) :
      ch.handle ∈ c.recordings.map PagedChannel.handle := by
    obtain ⟨page, _, recorded, _⟩ := h.mem_channels.mp current
    exact List.mem_map.mpr ⟨_, recorded, rfl⟩
  constructor
  case openings =>
    rw [openings, length]
    exact h.openings
  case pending =>
    rw [openings]
    exact h.pending
  case recorded =>
    rw [openings, recordings]
    exact h.recorded
  case distinct =>
    rw [recordings]
    exact h.distinct
  case pages =>
    rw [recordings, closes.pages]
    exact fun r member => Nat.lt_of_lt_of_le (h.pages r member) pages
  case page =>
    rw [closes.session, closes.pages, recordings]
    intro page current
    obtain ⟨id, more, none_yet⟩ := new page current
    rw [id, none_yet]
    exact ⟨more, (channelsOf_eq_nil fun r member => Nat.ne_of_lt (h.pages r member)).symm⟩
  case held =>
    intro handle pending
    rw [untouched, h.held handle pending]
    rintro ch current rfl
    exact h.not_recorded pending (recorded_of_current current)
  case left =>
    rw [recordings]
    intro r member standing _
    by_cases current : c.pageId? = some r.1
    · have on_page : r.2 ∈ c.session.channels := h.mem_channels.mpr ⟨r.1, current, member, standing⟩
      have once : (c.session.channels.map SocketChannel.handle).count r.handle = 1 :=
        List.count_eq_one_of_mem h.nodup_channels (List.mem_map.mpr ⟨r.2, on_page, rfl⟩)
      rw [closed, once, h.kept r member fun _ => current]
    · rw [untouched, h.left r member standing current]
      intro ch on_page same
      obtain ⟨page, isCurrent, recorded, _⟩ := h.mem_channels.mp on_page
      have one := eq_of_handle h.recordings_nodup recorded member same
      rw [← one] at current
      exact current isCurrent
  case kept =>
    rw [recordings]
    intro r member only
    have replaced : ¬ Standing c.recordings r := fun standing => elsewhere r member (only standing)
    rw [untouched, h.kept r member fun standing => absurd standing replaced]
    intro ch on_page same
    obtain ⟨page, _, recorded, standing⟩ := h.mem_channels.mp on_page
    have one := eq_of_handle h.recordings_nodup recorded member same
    rw [one] at standing
    exact replaced standing
  case abandoned =>
    rw [length, recordings]
    intro handle below free unrecorded
    rw [untouched, h.abandoned handle below free unrecorded]
    rintro ch current rfl
    exact unrecorded (recorded_of_current current)
  case unopened =>
    rw [length]
    intro handle above
    rw [untouched, h.unopened handle above]
    rintro ch current rfl
    exact Nat.not_lt_of_le above (h.lt_of_recorded (recorded_of_current current))

/-! ### Opening, recording and giving up -/

theorem open_channel (h : Charted c k) {page : Page} {channel : SocketChannel} (world : ω)
    (next : channel.handle = c.channels.length) :
    Charted
      { c with
        world
        channels := c.channels ++ [{}]
        history := c.history ++ [.opened page.id channel] }
      (.channel ⟨page.id, channel⟩ :: k) := by
  have more : (c.channels ++ [({} : Listeners RaceId)]).length = c.channels.length + 1 :=
    List.length_append
  have openings : openingsOf (c.history ++ [.opened page.id channel]) =
      c.openings ++ [(page.id, channel)] := openingsOf_append _ _
  have recordings : recordingsOf (c.history ++ [.opened page.id channel]) = c.recordings :=
    (recordingsOf_append _ _).trans (List.append_nil _)
  have fresh {handle : ChannelId} (below : handle < c.channels.length) : handle ≠ channel.handle := by
    rw [next]
    exact Nat.ne_of_lt below
  have pending_lt {handle : ChannelId} (pending : handle ∈ pendingHandles k) :
      handle < c.channels.length := by
    obtain ⟨p, holds, rfl⟩ := mem_pendingHandles.mp pending
    exact h.lt_of_opened (h.pending p holds)
  constructor
  case openings =>
    show (openingsOf _).map _ = List.range (c.channels ++ [({} : Listeners RaceId)]).length
    rw [openings, more, List.map_append, h.openings, List.range_succ, ← next]
    rfl
  case pending =>
    show ∀ p : PendingChannel, _ → (p.page, p.channel) ∈ openingsOf _
    rw [openings]
    intro p holds
    rcases List.mem_cons.mp holds with new | old
    · cases new
      exact List.mem_append_right _ List.mem_cons_self
    · exact List.mem_append_left _ (h.pending p old)
  case recorded =>
    show ∀ r ∈ recordingsOf _, r ∈ openingsOf _
    rw [openings, recordings]
    exact fun r member => List.mem_append_left _ (h.recorded r member)
  case distinct =>
    show (channel.handle :: (pendingHandles k ++ (recordingsOf _).map PagedChannel.handle)).Nodup
    rw [recordings]
    refine List.nodup_cons.mpr ⟨?_, h.distinct⟩
    intro member
    rcases List.mem_append.mp member with pending | recorded
    · exact fresh (pending_lt pending) rfl
    · exact fresh (h.lt_of_recorded recorded) rfl
  case pages =>
    show ∀ r ∈ recordingsOf _, _
    rw [recordings]
    exact h.pages
  case page =>
    show ∀ page : Page, _ → _ ∧ _ = channelsOf page.id (recordingsOf _)
    rw [recordings]
    exact h.page
  case held =>
    show ∀ handle ∈ channel.handle :: pendingHandles k, _
    intro handle pending
    rcases List.mem_cons.mp pending with rfl | old
    · exact h.unopened _ (Nat.le_of_eq next.symm)
    · exact h.held handle old
  case left =>
    show ∀ r ∈ recordingsOf _, Standing (recordingsOf _) r → _
    rw [recordings]
    exact h.left
  case kept =>
    show ∀ r ∈ recordingsOf _, (Standing (recordingsOf _) r → _) → _
    rw [recordings]
    exact h.kept
  case abandoned =>
    show ∀ handle < (c.channels ++ [({} : Listeners RaceId)]).length,
      handle ∉ channel.handle :: pendingHandles k →
        handle ∉ (recordingsOf _).map PagedChannel.handle → _
    rw [recordings, more]
    intro handle below free unrecorded
    obtain ⟨other, free⟩ := not_or.mp (List.mem_cons.not.mp free)
    have old : handle < c.channels.length := by
      rw [next] at other
      omega
    exact h.abandoned handle old free unrecorded
  case unopened =>
    show ∀ handle, (c.channels ++ [({} : Listeners RaceId)]).length ≤ handle → _
    rw [more]
    exact fun handle above => h.unopened handle (Nat.le_of_succ_le above)

theorem standing_of_concat {rs : List PagedChannel} {r new : PagedChannel}
    (distinct : ((rs ++ [new]).map PagedChannel.handle).Nodup) (member : r ∈ rs)
    (standing : Standing (rs ++ [new]) r) : Standing rs r := by
  unfold Standing at standing ⊢
  rw [channelsOf_concat] at standing
  split at standing
  · rename_i own
    by_cases same : new.2.ns = r.2.ns
    · rw [same, Entries.find?_set_self, Option.some.injEq] at standing
      rw [List.map_append, List.nodup_append] at distinct
      refine absurd ?_ (distinct.2.2 r.handle (List.mem_map_of_mem member) new.handle
        List.mem_cons_self)
      exact congrArg SocketChannel.handle standing.symm
    · rwa [Entries.find?_set_other _ _ (Ne.symm same)] at standing
  · exact standing

theorem record {p : PendingChannel} (h : Charted c (.channel p :: k)) {page : Page}
    (current : c.session.page = some page) (same : page.id = p.page) :
    Charted
      { c with
        session := c.session.record p.channel
        history := c.history ++ [.recorded p.page p.channel] }
      k := by
  have openings : openingsOf (c.history ++ [.recorded p.page p.channel]) = c.openings :=
    (openingsOf_append _ _).trans (List.append_nil _)
  have recordings : recordingsOf (c.history ++ [.recorded p.page p.channel]) =
      c.recordings ++ [(p.page, p.channel)] := recordingsOf_append _ _
  have recorded_page : (c.session.record p.channel).page =
      some { page with channels := page.channels.set p.channel.ns p.channel } := by
    unfold Session.record
    rw [current, Option.map_some]
  have pageId : c.pageId? = some p.page := by
    unfold Client.pageId?
    rw [current, Option.map_some, same]
  have pageId' : (c.session.record p.channel).page.map Page.id = some p.page := by
    rw [recorded_page, Option.map_some, same]
  have distinct : (pendingHandles k ++
      (c.recordings ++ [(p.page, p.channel)]).map PagedChannel.handle).Nodup := by
    rw [List.map_append, ← List.append_assoc]
    exact (List.perm_append_singleton _ _).nodup_iff.mpr h.distinct
  have kept_distinct := (List.nodup_append.mp distinct).2.1
  constructor
  case openings =>
    show (openingsOf _).map _ = _
    rw [openings]
    exact h.openings
  case pending =>
    show ∀ p : PendingChannel, _ → (p.page, p.channel) ∈ openingsOf _
    rw [openings]
    exact fun p' holds => h.pending p' (List.mem_cons_of_mem _ holds)
  case recorded =>
    show ∀ r ∈ recordingsOf _, r ∈ openingsOf _
    rw [openings, recordings]
    intro r member
    rcases List.mem_append.mp member with old | new
    · exact h.recorded r old
    · exact List.mem_singleton.mp new ▸ h.pending p List.mem_cons_self
  case distinct =>
    show (pendingHandles k ++ (recordingsOf _).map _).Nodup
    rw [recordings]
    exact distinct
  case pages =>
    show ∀ r ∈ recordingsOf _, _
    rw [recordings]
    intro r member
    rcases List.mem_append.mp member with old | new
    · exact h.pages r old
    · rw [List.mem_singleton.mp new, ← same]
      exact (h.page page current).1
  case page =>
    show ∀ page : Page, (c.session.record p.channel).page = some page →
      _ ∧ _ = channelsOf page.id (recordingsOf _)
    rw [recordings, recorded_page]
    intro page' isPage
    cases isPage
    obtain ⟨old, channels⟩ := h.page page current
    refine ⟨old, ?_⟩
    rw [channelsOf_concat, if_pos same.symm, ← channels]
  case held =>
    exact fun handle pending => h.held handle (List.mem_cons_of_mem _ pending)
  case left =>
    show ∀ r ∈ recordingsOf _, Standing (recordingsOf _) r →
      (c.session.record p.channel).page.map Page.id ≠ _ → _
    rw [recordings, pageId']
    intro r member standing other
    rcases List.mem_append.mp member with old | new
    · exact h.left r old (standing_of_concat kept_distinct old standing) (pageId ▸ other)
    · rw [List.mem_singleton.mp new] at other
      exact absurd rfl other
  case kept =>
    show ∀ r ∈ recordingsOf _, (Standing (recordingsOf _) r →
      (c.session.record p.channel).page.map Page.id = _) → _
    rw [recordings, pageId']
    intro r member only
    rcases List.mem_append.mp member with old | new
    · refine h.kept r old fun standing => ?_
      rw [pageId]
      -- A recording on another page leaves this one standing there.
      by_cases own : p.page = r.1
      · rw [own]
      · refine only ?_
        unfold Standing
        rw [channelsOf_concat, if_neg own]
        exact standing
    · rw [List.mem_singleton.mp new]
      exact h.held p.channel.handle List.mem_cons_self
  case abandoned =>
    show ∀ handle < c.channels.length, _ → handle ∉ (recordingsOf _).map _ → _
    rw [recordings, List.map_append]
    intro handle below free unrecorded
    obtain ⟨old, new⟩ := not_or.mp (List.mem_append.not.mp unrecorded)
    refine h.abandoned handle below ?_ old
    intro pending
    rcases List.mem_cons.mp pending with own | other
    · exact new (own ▸ List.mem_cons_self)
    · exact free other
  case unopened => exact h.unopened

theorem abandon [Transports ω] {p : PendingChannel} (h : Charted c (.channel p :: k)) :
    Charted (c.disconnect p.channel.handle) k := by
  have closes := Client.closes_disconnect c p.channel.handle
  have openings := closes.openings_eq
  have recordings := closes.recordings_eq
  have length : (c.disconnect p.channel.handle).channels.length = c.channels.length :=
    congrArg List.length closes.channels
  have page : (c.disconnect p.channel.handle).session.page = c.session.page :=
    congrArg Session.page closes.session
  have pageId : (c.disconnect p.channel.handle).pageId? = c.pageId? :=
    congrArg (Option.map Page.id) page
  have untouched {handle : ChannelId} (other : handle ≠ p.channel.handle) :
      closings handle (c.disconnect p.channel.handle).log = closings handle c.log := by
    rw [closes.closings_eq, List.count_eq_zero_of_not_mem (by simpa using other), Nat.add_zero]
  have own_recorded : p.channel.handle ∉ c.recordings.map PagedChannel.handle :=
    h.not_recorded List.mem_cons_self
  have own_pending : p.channel.handle ∉ pendingHandles k := by
    have distinct := (List.nodup_append.mp h.distinct).1
    exact (List.nodup_cons.mp distinct).1
  have recorded_other {r : PagedChannel} (member : r ∈ c.recordings) :
      r.handle ≠ p.channel.handle := fun same =>
    own_recorded (same ▸ List.mem_map_of_mem member)
  constructor
  case openings =>
    rw [openings, length]
    exact h.openings
  case pending =>
    rw [openings]
    exact fun p' holds => h.pending p' (List.mem_cons_of_mem _ holds)
  case recorded =>
    rw [openings, recordings]
    exact h.recorded
  case distinct =>
    rw [recordings]
    exact (List.nodup_cons.mp h.distinct).2
  case pages =>
    rw [recordings, closes.pages]
    exact h.pages
  case page =>
    rw [recordings, closes.pages, page]
    exact h.page
  case held =>
    intro handle pending
    rw [untouched fun same => own_pending (same ▸ pending)]
    exact h.held handle (List.mem_cons_of_mem _ pending)
  case left =>
    rw [recordings, pageId]
    intro r member standing other
    rw [untouched (recorded_other member)]
    exact h.left r member standing other
  case kept =>
    rw [recordings, pageId]
    intro r member only
    rw [untouched (recorded_other member)]
    exact h.kept r member only
  case abandoned =>
    rw [length, recordings]
    intro handle below free unrecorded
    by_cases own : handle = p.channel.handle
    · rw [closes.closings_eq, own, h.held p.channel.handle List.mem_cons_self, List.count_singleton_self]
    · rw [untouched own]
      refine h.abandoned handle below ?_ unrecorded
      intro pending
      rcases List.mem_cons.mp pending with same | other
      · exact own same
      · exact free other
  case unopened =>
    rw [length]
    intro handle above
    rw [untouched, h.unopened handle above]
    rintro rfl
    exact Nat.not_lt_of_le above (h.lt_of_opened (h.pending p List.mem_cons_self))

/-! ### Acts -/

theorem act [Transports ω] (h : Charted c k) (act : Act c k c' k') : Charted c' k' := by
  cases act with
  | quiet still world =>
    exact h.of_eq (congrArg List.length still.channels) (congrArg openingsOf still.history)
      (congrArg recordingsOf still.history) still.pages still.page still.closings
  | deliver channel s =>
    have closes := Client.closes_deliver c channel s
    exact h.of_eq (congrArg List.length closes.channels) closes.openings_eq closes.recordings_eq
      closes.pages (congrArg Session.page closes.session) fun handle => by
        rw [closes.closings_eq, List.count_nil, Nat.add_zero]
  | install known distinct =>
    rename_i channel events
    have same : Charted (c.install channel events).1 k :=
      h.of_eq List.length_set rfl rfl rfl rfl fun _ => rfl
    exact { same with
      pending := fun p holds => same.pending p ((List.mem_cons.mp holds).resolve_left nofun) }
  | release s =>
    have same : Charted (c.release s.race) (.listeners s :: k') := by
      obtain ⟨_, length, after⟩ := c.release_eq s.race
      rw [after]
      exact h.of_eq length rfl rfl rfl rfl fun _ => rfl
    exact { same with
      pending := fun p holds => same.pending p (List.mem_cons_of_mem _ holds) }
  | opened current next chosen called => exact h.open_channel _ next
  | recorded current same => exact h.record current same
  | abandoned p => exact h.abandon
  | unloaded =>
    refine h.leave (Client.closes_unloadPage c) rfl rfl rfl (Nat.le_refl _) ?_
    intro page current
    cases current
  | loaded response =>
    refine h.leave (Client.closes_loadPage c response) rfl rfl rfl (Nat.le_succ _) ?_
    intro page current
    cases current
    exact ⟨rfl, Nat.lt_succ_self _, rfl⟩
  | swap a b => exact h.perm (.swap b a _)

theorem acts [Transports ω] (h : Charted c k) (acts : Acts c k c' k') : Charted c' k' := by
  induction acts with
  | refl => exact h
  | step act _ ih => exact ih (h.act act)

end Charted

namespace Tab

variable [Transports ω] {t : Tab ω}

theorem charted_step (h : Charted t.client t.held) (event : TabEvent ω) :
    Charted (t.step event).client (t.step event).held := by
  rcases t.step_cases event with ⟨world, today, rfl⟩ | ⟨after, others, before, acts, now⟩
  · exact h.of_eq rfl rfl rfl rfl rfl fun _ => rfl
  · exact ((h.perm before).acts (acts.frame others)).perm now.symm

theorem Reachable.charted (reachable : Reachable t) : Charted t.client t.held := by
  induction reachable with
  | fresh profile world today sources =>
    refine ⟨rfl, ?_, ?_, List.nodup_nil, ?_, ?_, ?_, ?_, ?_, ?_, fun _ _ => rfl⟩
    all_goals
      intro _ member
      cases member
  | step event _ ih => exact charted_step ih event

end Tab

end LiveSession
