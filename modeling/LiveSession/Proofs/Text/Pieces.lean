import LiveSession.Text.Blank

/-!
# Texts in pieces

What cutting at a separator finds, and that pieces written with a separator between them are found
again.
-/

namespace LiveSession.Text

variable {sep c : Char} {before after cs : List Char}

/-! ### One cut -/

theorem cut?_append (absent : sep ∉ before) :
    cut? sep (before ++ sep :: after) = some (before, after) := by
  induction before with
  | nil => simp [cut?]
  | cons c before ih =>
    rw [List.mem_cons, not_or] at absent
    simp only [List.cons_append, cut?, if_neg (Ne.symm absent.1), ih absent.2, Option.map_some]

theorem not_mem_of_cut? (found : cut? sep cs = some (before, after)) : sep ∉ before := by
  induction cs generalizing before with
  | nil => cases found
  | cons c cs ih =>
    unfold cut? at found
    split at found
    · cases found
      exact List.not_mem_nil
    · rename_i different
      obtain ⟨⟨before', after'⟩, found', same⟩ := Option.map_eq_some_iff.mp found
      cases same
      rw [List.mem_cons, not_or]
      exact ⟨Ne.symm different, ih found'⟩

theorem eq_of_cut? (found : cut? sep cs = some (before, after)) : cs = before ++ sep :: after := by
  induction cs generalizing before with
  | nil => cases found
  | cons c cs ih =>
    unfold cut? at found
    split at found
    · rename_i same
      cases found
      rw [same]
      rfl
    · obtain ⟨⟨before', after'⟩, found', same⟩ := Option.map_eq_some_iff.mp found
      cases same
      rw [ih found']
      rfl

theorem cut?_eq_none : cut? sep cs = none ↔ sep ∉ cs := by
  induction cs with
  | nil => simp [cut?]
  | cons c cs ih =>
    unfold cut?
    by_cases same : c = sep
    · simp [same]
    · simp [same, ih, Ne.symm same]

/-! ### All pieces -/

theorem splitAll_of_not_mem (absent : sep ∉ cs) : splitAll sep cs = [cs] := by
  induction cs with
  | nil => rfl
  | cons c cs ih =>
    rw [List.mem_cons, not_or] at absent
    simp only [splitAll, if_neg (Ne.symm absent.1), ih absent.2]

theorem splitAll_append (absent : sep ∉ before) :
    splitAll sep (before ++ sep :: after) = before :: splitAll sep after := by
  induction before with
  | nil => simp [splitAll]
  | cons c before ih =>
    rw [List.mem_cons, not_or] at absent
    simp only [List.cons_append, splitAll, if_neg (Ne.symm absent.1), ih absent.2]

theorem splitAll_ne_nil (sep : Char) (cs : List Char) : splitAll sep cs ≠ [] := by
  cases cs with
  | nil => exact nofun
  | cons c cs =>
    unfold splitAll
    split
    · exact nofun
    · split <;> exact nofun

theorem mem_of_mem_splitAll {piece : List Char} (among : piece ∈ splitAll sep cs)
    (member : c ∈ piece) : c ∈ cs := by
  induction cs generalizing piece with
  | nil =>
    cases List.mem_singleton.mp among
    exact member
  | cons d cs ih =>
    unfold splitAll at among
    split at among
    · rcases List.mem_cons.mp among with rfl | later
      · cases member
      · exact List.mem_cons_of_mem _ (ih later member)
    · split at among
      · cases List.mem_singleton.mp among
        exact List.mem_cons.mpr (.inl (List.mem_singleton.mp member))
      · rename_i first rest pieces
        rcases List.mem_cons.mp among with rfl | later
        · exact (List.mem_cons.mp member).elim (fun same => List.mem_cons.mpr (.inl same))
            fun behind => List.mem_cons_of_mem _ (ih (pieces ▸ List.mem_cons_self) behind)
        · exact List.mem_cons_of_mem _ (ih (pieces ▸ List.mem_cons_of_mem _ later) member)

theorem not_mem_of_mem_splitAll {piece : List Char} (member : piece ∈ splitAll sep cs) :
    sep ∉ piece := by
  induction cs generalizing piece with
  | nil =>
    rw [List.mem_singleton.mp member]
    exact List.not_mem_nil
  | cons c cs ih =>
    unfold splitAll at member
    split at member
    · rcases List.mem_cons.mp member with rfl | later
      · exact List.not_mem_nil
      · exact ih later
    · rename_i different
      split at member
      · rw [List.mem_singleton.mp member, List.mem_singleton]
        exact Ne.symm different
      · rename_i first rest pieces
        rcases List.mem_cons.mp member with rfl | later
        · rw [List.mem_cons, not_or]
          exact ⟨Ne.symm different, ih (pieces ▸ List.mem_cons_self)⟩
        · exact ih (pieces ▸ List.mem_cons_of_mem _ later)

theorem join_cons_cons (sep s t : String) (rest : List String) :
    join sep (s :: t :: rest) = s ++ sep ++ join sep (t :: rest) := by
  simp only [join]

theorem join_append_cons (sep a s : String) (rest : List String) :
    join sep ((a ++ s) :: rest) = a ++ join sep (s :: rest) := by
  cases rest with
  | nil => rfl
  | cons t rest => simp only [join, String.append_assoc]

/-- A separator of two characters is the first one, with the second before each text that follows. -/
theorem join_spaced (s : String) (rest : List String) :
    join "; " (s :: rest) = join (String.singleton ';') (s :: rest.map (" " ++ ·)) := by
  induction rest generalizing s with
  | nil => rfl
  | cons t rest ih =>
    calc join "; " (s :: t :: rest)
      _ = s ++ (String.singleton ';' ++ " ") ++ join "; " (t :: rest) := join_cons_cons ..
      _ = s ++ String.singleton ';' ++ (" " ++ join "; " (t :: rest)) := by
        simp only [String.append_assoc]
      _ = s ++ String.singleton ';' ++
            join (String.singleton ';') ((" " ++ t) :: rest.map (" " ++ ·)) := by
        rw [ih, join_append_cons]
      _ = _ := (join_cons_cons ..).symm

theorem toList_join_cons (sep : Char) (s t : String) (rest : List String) :
    (join (String.singleton sep) (s :: t :: rest)).toList =
      s.toList ++ sep :: (join (String.singleton sep) (t :: rest)).toList := by
  simp [join, String.toList_append]

theorem splitAll_join {pieces : List String} (some_ : pieces ≠ [])
    (absent : ∀ s ∈ pieces, sep ∉ s.toList) :
    splitAll sep (join (String.singleton sep) pieces).toList = pieces.map String.toList := by
  induction pieces with
  | nil => exact absurd rfl some_
  | cons s rest ih =>
    obtain ⟨first, others⟩ := List.forall_mem_cons.mp absent
    cases rest with
    | nil => exact splitAll_of_not_mem first
    | cons t rest =>
      rw [toList_join_cons, splitAll_append first, ih (List.cons_ne_nil _ _) others]
      rfl

theorem mem_join (sep : Char) {pieces : List String}
    (member : c ∈ (join (String.singleton sep) pieces).toList) :
    c = sep ∨ ∃ s ∈ pieces, c ∈ s.toList := by
  induction pieces with
  | nil => simp [join] at member
  | cons s rest ih =>
    cases rest with
    | nil => exact .inr ⟨s, List.mem_cons_self, member⟩
    | cons t rest =>
      rw [toList_join_cons, List.mem_append, List.mem_cons] at member
      rcases member with first | rfl | later
      · exact .inr ⟨s, List.mem_cons_self, first⟩
      · exact .inl rfl
      · obtain same | ⟨u, among, found⟩ := ih later
        · exact .inl same
        · exact .inr ⟨u, List.mem_cons_of_mem _ among, found⟩

end LiveSession.Text
