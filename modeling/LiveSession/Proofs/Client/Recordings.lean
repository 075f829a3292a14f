import LiveSession.Proofs.Client.Effects
import LiveSession.Proofs.Entries
import Mathlib.Data.List.Induction

/-!
# Recordings

The history of a client tells which channels were opened and which were recorded, in order. The
channels of a page are its recordings, where a later one takes the place of an earlier one for the
same namespace.
-/

namespace LiveSession

/-- A channel with the page that it was opened for or recorded on. -/
abbrev PagedChannel := PageId × SocketChannel

namespace ChannelEvent

def opening? : ChannelEvent → Option PagedChannel
  | opened page channel => some (page, channel)
  | recorded .. | dispatched .. => none

def recording? : ChannelEvent → Option PagedChannel
  | recorded page channel => some (page, channel)
  | opened .. | dispatched .. => none

end ChannelEvent

def PagedChannel.handle (r : PagedChannel) : ChannelId := r.2.handle

def openingsOf (history : List ChannelEvent) : List PagedChannel :=
  history.filterMap ChannelEvent.opening?

def recordingsOf (history : List ChannelEvent) : List PagedChannel :=
  history.filterMap ChannelEvent.recording?

theorem openingsOf_append (h h' : List ChannelEvent) :
    openingsOf (h ++ h') = openingsOf h ++ openingsOf h' := List.filterMap_append

theorem recordingsOf_append (h h' : List ChannelEvent) :
    recordingsOf (h ++ h') = recordingsOf h ++ recordingsOf h' := List.filterMap_append

theorem openingsOf_dispatched (heard : List (ChannelId × Occurrence)) :
    openingsOf (heard.map fun h => .dispatched h.1 h.2) = [] := by
  unfold openingsOf
  rw [List.filterMap_map]
  exact List.filterMap_eq_nil_iff.mpr fun _ _ => rfl

theorem recordingsOf_dispatched (heard : List (ChannelId × Occurrence)) :
    recordingsOf (heard.map fun h => .dispatched h.1 h.2) = [] := by
  unfold recordingsOf
  rw [List.filterMap_map]
  exact List.filterMap_eq_nil_iff.mpr fun _ _ => rfl

/-- The channels of a page with some recordings. -/
def channelsOf (page : PageId) (rs : List PagedChannel) : Entries SocketChannel :=
  rs.foldl (fun es r => if r.1 = page then es.set r.2.ns r.2 else es) []

variable {page : PageId} {rs : List PagedChannel}

theorem channelsOf_concat (page : PageId) (rs : List PagedChannel) (r : PagedChannel) :
    channelsOf page (rs ++ [r]) =
      if r.1 = page then (channelsOf page rs).set r.2.ns r.2 else channelsOf page rs := by
  unfold channelsOf
  rw [List.foldl_append]
  rfl

theorem channelsOf_eq_nil (absent : ∀ r ∈ rs, r.1 ≠ page) : channelsOf page rs = [] := by
  induction rs using List.reverseRecOn with
  | nil => rfl
  | append_singleton rs r ih =>
    rw [channelsOf_concat, if_neg (absent r (List.mem_append_right _ List.mem_cons_self))]
    exact ih fun r member => absent r (List.mem_append_left _ member)

theorem nodup_names_channelsOf (page : PageId) (rs : List PagedChannel) :
    (channelsOf page rs).names.Nodup := by
  induction rs using List.reverseRecOn with
  | nil => exact List.nodup_nil
  | append_singleton rs r ih =>
    rw [channelsOf_concat]
    split
    · exact Entries.nodup_set ih _ _
    · exact ih

theorem mem_of_mem_channelsOf {e : String × SocketChannel} (member : e ∈ channelsOf page rs) :
    (page, e.2) ∈ rs ∧ e.1 = e.2.ns := by
  induction rs using List.reverseRecOn with
  | nil => cases member
  | append_singleton rs r ih =>
    rw [channelsOf_concat] at member
    split at member
    · rename_i own
      rcases Entries.mem_of_mem_set member with rfl | old
      · exact ⟨List.mem_append_right _ (List.mem_singleton.mpr (Prod.ext own.symm rfl)), rfl⟩
      · exact (ih old).imp_left (List.mem_append_left _)
    · exact (ih member).imp_left (List.mem_append_left _)

theorem mem_of_find?_channelsOf {ns : String} {channel : SocketChannel}
    (found : (channelsOf page rs).find? ns = some channel) :
    (page, channel) ∈ rs ∧ ns = channel.ns :=
  mem_of_mem_channelsOf (Entries.mem_of_find? found)

theorem find?_channelsOf (page : PageId) (rs : List PagedChannel) (ns : String) :
    (channelsOf page rs).find? ns =
      (rs.filter fun r => r.1 = page ∧ r.2.ns = ns).getLast?.map Prod.snd := by
  induction rs using List.reverseRecOn with
  | nil => rfl
  | append_singleton rs r ih =>
    rw [channelsOf_concat, List.filter_append]
    by_cases own : r.1 = page
    · rw [if_pos own]
      by_cases same : r.2.ns = ns
      · rw [← same, Entries.find?_set_self, List.filter_cons_of_pos (by simp [own, same]),
          List.filter_nil, List.getLast?_concat, Option.map_some]
      · rw [Entries.find?_set_other _ _ (Ne.symm same), ih,
          List.filter_cons_of_neg (by simp [same]), List.filter_nil, List.append_nil]
    · rw [if_neg own, ih, List.filter_cons_of_neg (by simp [own]), List.filter_nil,
        List.append_nil]

theorem channelsOf_eq_nil_iff : channelsOf page rs = [] ↔ ∀ r ∈ rs, r.1 ≠ page := by
  refine ⟨?_, channelsOf_eq_nil⟩
  rintro nobody r member rfl
  have last := find?_channelsOf r.1 rs r.2.ns
  rw [nobody] at last
  have nothing := List.getLast?_eq_none_iff.mp (Option.map_eq_none_iff.mp last.symm)
  have own : r ∈ rs.filter fun r' => r'.1 = r.1 ∧ r'.2.ns = r.2.ns :=
    List.mem_filter.mpr ⟨member, decide_eq_true ⟨rfl, rfl⟩⟩
  rw [nothing] at own
  cases own

/-- A later recording for the same namespace of the page took the place of this one. -/
def Superseded (rs : List PagedChannel) (page : PageId) (channel : SocketChannel) : Prop :=
  ∃ before after later, rs = before ++ (page, channel) :: after ∧ (page, later) ∈ after ∧
    later.ns = channel.ns

theorem eq_of_handle (distinct : (rs.map PagedChannel.handle).Nodup) {r r' : PagedChannel}
    (member : r ∈ rs) (member' : r' ∈ rs) (same : r.handle = r'.handle) : r = r' :=
  List.inj_on_of_nodup_map distinct member member' same

theorem superseded_iff (distinct : (rs.map PagedChannel.handle).Nodup) {channel : SocketChannel}
    (member : (page, channel) ∈ rs) :
    Superseded rs page channel ↔ (channelsOf page rs).find? channel.ns ≠ some channel := by
  rw [find?_channelsOf]
  constructor
  · rintro ⟨before, after, later, rfl, replaced, ns⟩ last
    have different : ∀ r ∈ after, r.2 ≠ channel := by
      rintro r late rfl
      rw [List.map_append, List.map_cons] at distinct
      have apart := (List.nodup_append.mp distinct).2.1
      exact (List.nodup_cons.mp apart).1 (List.mem_map.mpr ⟨r, late, rfl⟩)
    rw [List.filter_append, List.filter_cons_of_pos (by simp)] at last
    have some_left : (page, later) ∈ after.filter fun r => r.1 = page ∧ r.2.ns = channel.ns :=
      List.mem_filter.mpr ⟨replaced, by simp [ns]⟩
    cases tail : after.filter fun r => r.1 = page ∧ r.2.ns = channel.ns with
    | nil =>
      rw [tail] at some_left
      cases some_left
    | cons r rest =>
      rw [tail, List.getLast?_append_cons, List.getLast?_cons_cons] at last
      obtain ⟨r', isLast, same⟩ := Option.map_eq_some_iff.mp last
      have among : r' ∈ after.filter fun r => r.1 = page ∧ r.2.ns = channel.ns := by
        rw [tail]
        exact List.mem_of_getLast? isLast
      exact different r' (List.mem_filter.mp among).1 same
  · intro replaced
    obtain ⟨before, after, rfl⟩ := List.append_of_mem member
    refine ⟨before, after, ?_⟩
    by_contra kept
    apply replaced
    have none_left : (after.filter fun r => r.1 = page ∧ r.2.ns = channel.ns) = [] := by
      apply List.filter_eq_nil_iff.mpr
      rintro ⟨page', later⟩ late same
      obtain ⟨rfl, ns⟩ := of_decide_eq_true same
      exact kept ⟨later, rfl, late, ns⟩
    rw [List.filter_append, List.filter_cons_of_pos (by simp), none_left, List.getLast?_concat,
      Option.map_some]

end LiveSession
