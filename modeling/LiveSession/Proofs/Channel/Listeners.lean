import LiveSession.Channel.Listeners
import Mathlib.Data.List.Nodup

/-!
# Registering and removing several listeners

Whoever waits on a channel registers one listener for each of its events, and later removes just
these. `entries_addAll` and `entries_removeAll` say what that does to the registry.
-/

namespace LiveSession.Listeners

variable {α : Type}

def addAll (ls : Listeners α) (events : List String) (listener : α) : Listeners α :=
  events.foldl (fun ls e => ls.add e listener) ls

def removeAll (ls : Listeners α) (keys : List (String × Nat)) : Listeners α :=
  keys.foldl (fun ls l => ls.remove l.1 l.2) ls

@[simp] theorem addAll_nil (ls : Listeners α) (x : α) : ls.addAll [] x = ls := rfl

theorem addAll_cons (ls : Listeners α) (e : String) (events : List String) (x : α) :
    ls.addAll (e :: events) x = (ls.add e x).addAll events x := rfl

theorem next_addAll (ls : Listeners α) (events : List String) (x : α) :
    (ls.addAll events x).next = ls.next + events.length := by
  induction events generalizing ls with
  | nil => rfl
  | cons e events ih =>
    rw [addAll_cons, ih, List.length_cons]
    show ls.next + 1 + events.length = ls.next + (events.length + 1)
    omega

/-- The registrations of a listener for each of the events, numbered from `next` on. -/
def numbered (next : Nat) (events : List String) (x : α) : List (Registration α) :=
  events.mapIdx fun i e => ⟨next + i, e, x⟩

theorem numbered_cons (next : Nat) (e : String) (events : List String) (x : α) :
    numbered next (e :: events) x = ⟨next, e, x⟩ :: numbered (next + 1) events x := by
  unfold numbered
  rw [List.mapIdx_cons]
  congr 1
  apply List.mapIdx_eq_mapIdx_iff.mpr
  intro i _
  rw [Nat.add_assoc, Nat.add_comm i 1]

theorem entries_addAll (ls : Listeners α) (events : List String) (x : α) :
    (ls.addAll events x).entries = ls.entries ++ numbered ls.next events x := by
  induction events generalizing ls with
  | nil => simp [numbered]
  | cons e events ih =>
    rw [addAll_cons, ih, numbered_cons]
    show (ls.entries ++ [⟨ls.next, e, x⟩]) ++ numbered (ls.next + 1) events x = _
    rw [List.append_assoc, List.singleton_append]

theorem next_removeAll (ls : Listeners α) (keys : List (String × Nat)) :
    (ls.removeAll keys).next = ls.next := by
  induction keys generalizing ls with
  | nil => rfl
  | cons l keys ih => exact ih (ls.remove l.1 l.2)

theorem entries_removeAll (ls : Listeners α) (keys : List (String × Nat)) :
    (ls.removeAll keys).entries = ls.entries.filter fun r => (r.event, r.id) ∉ keys := by
  induction keys generalizing ls with
  | nil => simp [removeAll]
  | cons l keys ih =>
    show ((ls.remove l.1 l.2).removeAll keys).entries = _
    rw [ih]
    show List.filter _ (ls.entries.filter fun r => !isAt l.1 l.2 r) = _
    rw [List.filter_filter]
    apply List.filter_congr
    intro r _
    have same : isAt l.1 l.2 r = decide ((r.event, r.id) = l) := by
      rw [Bool.eq_iff_iff]
      simp [isAt, Prod.ext_iff]
    rw [same, Bool.eq_iff_iff]
    simp only [decide_not, Bool.and_eq_true, Bool.not_eq_true', decide_eq_false_iff_not,
      List.mem_cons, not_or, decide_eq_true_eq]
    exact and_comm

/-- A registration in the registry has a number that is given already. -/
def Numbered (ls : Listeners α) : Prop :=
  (ls.entries.map Registration.id).Nodup ∧ ∀ r ∈ ls.entries, r.id < ls.next

theorem numbered_empty : Numbered ({} : Listeners α) := ⟨List.nodup_nil, by simp⟩

theorem mem_numbered {next : Nat} {events : List String} {x : α} {r : Registration α}
    (h : r ∈ numbered next events x) :
    next ≤ r.id ∧ r.id < next + events.length ∧ r.event ∈ events ∧ r.listener = x := by
  obtain ⟨i, hi, rfl⟩ := List.mem_mapIdx.mp h
  exact ⟨by simp, by simpa using hi, List.getElem_mem hi, rfl⟩

theorem ids_numbered (next : Nat) (events : List String) (x : α) :
    (numbered next events x).map Registration.id = (List.range events.length).map (next + ·) := by
  apply List.ext_getElem
  · simp [numbered]
  · intro i _ _
    simp [numbered]

theorem Numbered.addAll {ls : Listeners α} (h : Numbered ls) (events : List String) (x : α) :
    Numbered (ls.addAll events x) := by
  obtain ⟨distinct, below⟩ := h
  refine ⟨?_, ?_⟩
  · rw [entries_addAll, List.map_append, List.nodup_append]
    refine ⟨distinct, ?_, ?_⟩
    · rw [ids_numbered]
      exact List.nodup_range.map fun _ _ same => Nat.add_left_cancel same
    · intro a old b new same
      obtain ⟨r, hr, rfl⟩ := List.mem_map.mp old
      obtain ⟨s, hs, rfl⟩ := List.mem_map.mp new
      have := below r hr
      have := (mem_numbered hs).1
      omega
  · intro r hr
    rw [entries_addAll] at hr
    rw [next_addAll]
    rcases List.mem_append.mp hr with old | new
    · have := below r old
      omega
    · exact (mem_numbered new).2.1

theorem Numbered.removeAll {ls : Listeners α} (h : Numbered ls) (keys : List (String × Nat)) :
    Numbered (ls.removeAll keys) := by
  obtain ⟨distinct, below⟩ := h
  rw [Numbered, entries_removeAll, next_removeAll]
  exact ⟨distinct.sublist (List.filter_sublist.map _), fun r hr => below r (List.mem_filter.mp hr).1⟩

theorem Numbered.eq_of_id {ls : Listeners α} (h : Numbered ls) {r s : Registration α}
    (hr : r ∈ ls.entries) (hs : s ∈ ls.entries) (same : r.id = s.id) : r = s :=
  List.inj_on_of_nodup_map h.1 hr hs same

/-- The registrations stand in the order of their numbers, all of which have been given. -/
structure Ordered (ls : Listeners α) : Prop where
  ascending : ls.entries.Pairwise fun r r' => r.id < r'.id
  given : ∀ r ∈ ls.entries, r.id < ls.next

theorem ordered_empty : Ordered ({} : Listeners α) := ⟨.nil, nofun⟩

theorem Ordered.add {ls : Listeners α} (h : Ordered ls) (event : String) (x : α) :
    Ordered (ls.add event x) where
  ascending := by
    refine List.pairwise_append.mpr ⟨h.ascending, List.pairwise_singleton _ _, fun r old r' new => ?_⟩
    rw [List.mem_singleton.mp new]
    exact h.given r old
  given := by
    intro r member
    rcases List.mem_append.mp member with old | new
    · exact Nat.lt_succ_of_lt (h.given r old)
    · rw [List.mem_singleton.mp new]
      exact Nat.lt_succ_self _

theorem Ordered.remove {ls : Listeners α} (h : Ordered ls) (event : String) (id : Nat) :
    Ordered (ls.remove event id) where
  ascending := h.ascending.sublist List.filter_sublist
  given := fun r member => h.given r (List.mem_filter.mp member).1

end LiveSession.Listeners
