import LiveSession.Entries
import Mathlib.Data.List.Nodup

/-!
# Lookup in insertion-ordered maps

What setting and erasing a name does to the entries, their names and the lookup.
-/

namespace LiveSession.Entries

variable {α : Type} {name other : String} {v : α} {es : Entries α}

theorem mem_of_find? (found : find? name es = some v) : (name, v) ∈ es := by
  induction es with
  | nil => cases found
  | cons e rest ih =>
    unfold find? at found
    split at found
    · rename_i same
      cases found
      subst same
      exact List.mem_cons_self
    · exact List.mem_cons_of_mem _ (ih found)

theorem find?_of_mem (distinct : es.names.Nodup) (member : (name, v) ∈ es) :
    find? name es = some v := by
  induction es with
  | nil => cases member
  | cons e rest ih =>
    obtain ⟨absent, distinct⟩ := List.nodup_cons.mp distinct
    unfold find?
    rcases List.mem_cons.mp member with rfl | member
    · rw [if_pos rfl]
    · have different : e.1 ≠ name := by
        rintro rfl
        exact absent (List.mem_map.mpr ⟨(e.1, v), member, rfl⟩)
      rw [if_neg different]
      exact ih distinct member

theorem find?_append {more : Entries α} (found : find? name es = some v) :
    find? name (es ++ more) = some v := by
  induction es with
  | nil => cases found
  | cons e rest ih =>
    unfold find? at found
    rw [List.cons_append, find?]
    split at found
    · rename_i same
      rw [if_pos same]
      exact found
    · rename_i different
      rw [if_neg different]
      exact ih found

theorem exists_of_mem_names (member : name ∈ es.names) : ∃ v, find? name es = some v := by
  induction es with
  | nil => cases member
  | cons e rest ih =>
    unfold find?
    split
    · exact ⟨_, rfl⟩
    · rename_i different
      exact ih ((List.mem_cons.mp member).resolve_left (Ne.symm different))

theorem mem_names_of_find? (found : find? name es = some v) : name ∈ es.names :=
  List.mem_map_of_mem (mem_of_find? found)

theorem mem_of_mem_set {e : String × α} (member : e ∈ set name v es) : e = (name, v) ∨ e ∈ es := by
  induction es with
  | nil => exact .inl (List.mem_singleton.mp member)
  | cons first rest ih =>
    unfold set at member
    split at member
    · rename_i same
      rcases List.mem_cons.mp member with new | old
      · exact .inl (same ▸ new)
      · exact .inr (List.mem_cons_of_mem _ old)
    · rcases List.mem_cons.mp member with new | old
      · exact .inr (new ▸ List.mem_cons_self)
      · exact (ih old).imp_right (List.mem_cons_of_mem _)

theorem mem_set_of_mem {e : String × α} (member : e ∈ es) (different : e.1 ≠ name) :
    e ∈ set name v es := by
  induction es with
  | nil => cases member
  | cons first rest ih =>
    unfold set
    rcases List.mem_cons.mp member with rfl | later
    · rw [if_neg different]
      exact List.mem_cons_self
    · split
      · exact List.mem_cons_of_mem _ later
      · exact List.mem_cons_of_mem _ (ih later)

theorem mem_erase {e : String × α} : e ∈ erase name es ↔ e ∈ es ∧ e.1 ≠ name := by
  unfold erase
  rw [List.mem_filter, decide_eq_true_eq]

theorem nodup_erase (distinct : es.names.Nodup) (name : String) : (erase name es).names.Nodup :=
  distinct.sublist (List.filter_sublist.map _)

theorem find?_erase_self (name : String) (es : Entries α) : find? name (erase name es) = none := by
  cases found : find? name (erase name es) with
  | none => rfl
  | some v => exact absurd rfl (mem_erase.mp (mem_of_find? found)).2

theorem find?_erase_other (es : Entries α) (different : other ≠ name) :
    find? other (erase name es) = find? other es := by
  induction es with
  | nil => rfl
  | cons e rest ih =>
    unfold erase at ih ⊢
    by_cases erased : e.1 = name
    · have skipped : e.1 ≠ other := fun same => different (same.symm.trans erased)
      rw [List.filter_cons_of_neg (by simp [erased]), ih, find?, if_neg skipped]
    · rw [List.filter_cons_of_pos (by simp [erased]), find?, find?, ih]

theorem find?_set_self (name : String) (v : α) (es : Entries α) :
    find? name (set name v es) = some v := by
  induction es with
  | nil => simp [set, find?]
  | cons e rest ih =>
    unfold set
    split
    · rename_i same
      simp [find?, same]
    · rename_i different
      simp [find?, different, ih]

theorem find?_set_other (v : α) (es : Entries α) (different : other ≠ name) :
    find? other (set name v es) = find? other es := by
  induction es with
  | nil => simp [set, find?, Ne.symm different]
  | cons e rest ih =>
    unfold set
    split
    · rename_i same
      simp [find?, same, Ne.symm different]
    · simp only [find?, ih]

theorem names_set (name : String) (v : α) (es : Entries α) :
    (set name v es).names = if name ∈ es.names then es.names else es.names ++ [name] := by
  induction es with
  | nil => rfl
  | cons e rest ih =>
    unfold set
    by_cases same : e.1 = name
    · rw [if_pos same, if_pos]
      · rfl
      · exact same ▸ List.mem_cons_self
    · rw [if_neg same]
      show e.1 :: (set name v rest).names = _
      rw [ih]
      have skip : (name ∈ names (e :: rest)) ↔ name ∈ names rest := by
        simp [names, Ne.symm same]
      by_cases present : name ∈ names rest
      · rw [if_pos present, if_pos (skip.mpr present)]
        rfl
      · rw [if_neg present, if_neg (skip.not.mpr present)]
        rfl

theorem set_of_not_mem (absent : name ∉ es.names) : set name v es = es ++ [(name, v)] := by
  induction es with
  | nil => rfl
  | cons e rest ih =>
    simp only [names, List.map_cons, List.mem_cons, not_or] at absent
    unfold set
    rw [if_neg (Ne.symm absent.1), ih absent.2]
    rfl

theorem set_of_mem (distinct : es.names.Nodup) (present : name ∈ es.names) (v : α) :
    set name v es = es.map fun e => if e.1 = name then (name, v) else e := by
  induction es with
  | nil => cases present
  | cons e rest ih =>
    obtain ⟨absent, distinct⟩ := List.nodup_cons.mp distinct
    unfold set
    by_cases same : e.1 = name
    · have others : ∀ e' ∈ rest, e'.1 ≠ name := fun e' member named =>
        absent (same ▸ named ▸ List.mem_map_of_mem member)
      rw [if_pos same, List.map_cons, if_pos same, same]
      have kept : rest.map (fun e => if e.1 = name then (name, v) else e) = rest.map id :=
        List.map_congr_left fun e' member => if_neg (others e' member)
      rw [kept, List.map_id]
    · have later := (List.mem_cons.mp present).resolve_left (Ne.symm same)
      rw [if_neg same, List.map_cons, if_neg same, ih distinct later]

theorem nodup_set (distinct : es.names.Nodup) (name : String) (v : α) :
    (set name v es).names.Nodup := by
  rw [names_set]
  split
  · exact distinct
  · rename_i absent
    exact List.nodup_append.mpr ⟨distinct, List.nodup_singleton _, by
      intro a ha b hb
      rw [List.mem_singleton.mp hb]
      rintro rfl
      exact absent ha⟩

end LiveSession.Entries
