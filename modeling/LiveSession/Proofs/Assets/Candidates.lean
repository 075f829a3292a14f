import Mathlib.Data.List.Basic
import LiveSession.Assets.References
import LiveSession.Proofs.Entries

/-!
# What a crawl fetches

The candidates of a crawl have different keys, none of them cached, and each comes from a reference
in the page. References are listed once and keys as well, so their keys are those of all references
that are not cached, in the order in which they occur first: `map_fst_candidates`.
-/

namespace LiveSession.Assets

variable {α κ : Type} [BEq κ] [LawfulBEq κ] {key : α → κ}

omit [LawfulBEq κ] in
theorem mem_of_mem_firstsBy {x : α} {xs : List α} (member : x ∈ firstsBy key xs) : x ∈ xs := by
  induction xs with
  | nil => cases member
  | cons y ys ih =>
    rcases List.mem_cons.mp member with rfl | later
    · exact List.mem_cons_self
    · exact List.mem_cons_of_mem _ (ih (List.mem_filter.mp later).1)

theorem nodup_firstsBy (key : α → κ) (xs : List α) : ((firstsBy key xs).map key).Nodup := by
  induction xs with
  | nil => exact List.nodup_nil
  | cons x xs ih =>
    refine List.nodup_cons.mpr ⟨?_, ih.sublist (List.filter_sublist.map _)⟩
    intro again
    obtain ⟨y, later, same⟩ := List.mem_map.mp again
    have different := (List.mem_filter.mp later).2
    simp [same] at different

variable {isCached : String → Bool} {page url : Url} {extensions : List String} {body name : String}

theorem candidates_nodup (isCached : String → Bool) (page : Url) (extensions : List String)
    (body : String) : ((candidates isCached page extensions body).map Prod.fst).Nodup :=
  nodup_firstsBy _ _

theorem candidate_uncached (member : (name, url) ∈ candidates isCached page extensions body) :
    isCached name = false := by
  have kept := (List.mem_filter.mp (mem_of_mem_firstsBy member)).2
  simpa using kept

theorem candidate_resource (member : (name, url) ∈ candidates isCached page extensions body) :
    ∃ reference ∈ references extensions body, page.join reference = .ok url ∧ name = url.resource := by
  have found := (List.mem_filter.mp (mem_of_mem_firstsBy member)).1
  obtain ⟨reference, referenced, resolved⟩ := List.mem_filterMap.mp found
  unfold resolve? at resolved
  split at resolved
  · rename_i joined
    cases resolved
    exact ⟨reference, referenced, joined, rfl⟩
  · cases resolved

theorem candidate_referenced (member : (name, url) ∈ candidates isCached page extensions body) :
    ∃ reference ∈ references extensions body, page.join reference = .ok url :=
  have ⟨reference, referenced, joined, _⟩ := candidate_resource member
  ⟨reference, referenced, joined⟩

/-! ### First occurrences -/

omit [LawfulBEq κ] in
theorem map_firstsBy (key : α → κ) (xs : List α) :
    (firstsBy key xs).map key = firstsBy id (xs.map key) := by
  induction xs with
  | nil => rfl
  | cons x xs ih =>
    rw [firstsBy, List.map_cons, List.map_cons, firstsBy, ← ih, List.filter_map]
    rfl

theorem mem_firstsBy_id {x : κ} {xs : List κ} : x ∈ firstsBy id xs ↔ x ∈ xs := by
  induction xs with
  | nil => rfl
  | cons y ys ih =>
    rw [firstsBy, List.mem_cons, List.mem_filter, ih, List.mem_cons]
    by_cases same : x = y <;> simp [same]

theorem filter_firstsBy_id (p : κ → Bool) (xs : List κ) :
    (firstsBy id xs).filter p = firstsBy id (xs.filter p) := by
  induction xs with
  | nil => rfl
  | cons x xs ih =>
    rw [firstsBy, List.filter_cons, List.filter_comm, ih, List.filter_cons]
    cases kept : p x with
    | true => rfl
    | false =>
      -- what is left out later is left out already
      rw [if_neg Bool.false_ne_true, if_neg Bool.false_ne_true]
      refine List.filter_eq_self.mpr fun y member => ?_
      have passed := (List.mem_filter.mp (mem_firstsBy_id.mp member)).2
      refine bne_iff_ne.mpr fun same => ?_
      rw [id, id] at same
      rw [same, kept] at passed
      cases passed

variable [DecidableEq α] {β : Type} [BEq β] [LawfulBEq β]

/-- It makes no difference whether what is mapped is listed once. -/
theorem firstsBy_filterMap_firstsBy (f : α → Option β) (xs : List α) :
    firstsBy id ((firstsBy id xs).filterMap f) = firstsBy id (xs.filterMap f) := by
  induction xs with
  | nil => rfl
  | cons x xs ih =>
    rw [firstsBy, List.filterMap_cons, List.filterMap_cons]
    cases mapped : f x with
    | none =>
      have same : ((firstsBy id xs).filter fun y => id y != id x).filterMap f =
          (firstsBy id xs).filterMap f := by
        rw [List.filterMap_filter]
        refine List.filterMap_congr fun y _ => ?_
        by_cases here : y = x <;> simp [here, mapped]
      dsimp only
      rw [same, ih]
    | some b =>
      have same : (((firstsBy id xs).filter fun y => id y != id x).filterMap f).filter
            (fun y => id y != id b) =
          ((firstsBy id xs).filterMap f).filter fun y => id y != id b := by
        rw [List.filterMap_filter, List.filter_filterMap, List.filter_filterMap]
        refine List.filterMap_congr fun y _ => ?_
        by_cases here : y = x
        · simp [here, mapped, Option.filter]
        · simp [here]
      dsimp only
      rw [firstsBy, firstsBy, filter_firstsBy_id, same, ← filter_firstsBy_id, ih]

theorem pairwise_firstsBy_id (xs : List α) :
    (firstsBy id xs).Pairwise fun x y => xs.idxOf x < xs.idxOf y := by
  induction xs with
  | nil => exact .nil
  | cons x xs ih =>
    have later (y : α) (member : y ∈ (firstsBy id xs).filter fun y => id y != id x) :
        (x :: xs).idxOf y = xs.idxOf y + 1 := by
      have different : y ≠ x := bne_iff_ne.mp (List.mem_filter.mp member).2
      exact List.idxOf_cons_ne _ different.symm
    refine .cons (fun y member => ?_) ?_
    · rw [List.idxOf_cons_self, later y member]
      exact Nat.succ_pos _
    · refine (ih.filter _).imp_of_mem fun {y z} first second below => ?_
      rw [later y first, later z second]
      exact Nat.succ_lt_succ below

/-! ### The keys of a page -/

/-- The path and query of a reference resolved against the page. -/
def key? (page : Url) (reference : String) : Option String :=
  (resolve? page reference).map Prod.fst

/-- The keys of all local references with an allowed extension, as they occur in a body. -/
def keys (page : Url) (extensions : List String) (body : String) : List String :=
  ((attributeValues body).filter fun r => isLocal r && hasExtension extensions r).filterMap (key? page)

theorem map_fst_candidates (isCached : String → Bool) (page : Url) (extensions : List String)
    (body : String) :
    (candidates isCached page extensions body).map Prod.fst =
      (firstsBy id (keys page extensions body)).filter fun key => !isCached key := by
  have resolved : ((references extensions body).filterMap (resolve? page)).map Prod.fst =
      (references extensions body).filterMap (key? page) := by
    rw [List.map_filterMap]
    rfl
  have filtered (found : List Candidate) : (found.filter fun c => !isCached c.1).map Prod.fst =
      (found.map Prod.fst).filter fun key => !isCached key := by
    rw [List.filter_map]
    rfl
  rw [candidates, map_firstsBy, filtered, resolved, ← filter_firstsBy_id, references,
    firstsBy_filterMap_firstsBy]
  rfl

theorem keys_subset {extensions' : List String} (subset : extensions' ⊆ extensions) :
    keys page extensions' body ⊆ keys page extensions body := by
  intro name member
  obtain ⟨reference, allowed, resolved⟩ := List.mem_filterMap.mp member
  obtain ⟨written, both⟩ := List.mem_filter.mp allowed
  refine List.mem_filterMap.mpr ⟨reference, List.mem_filter.mpr ⟨written, ?_⟩, resolved⟩
  rw [Bool.and_eq_true] at both ⊢
  refine ⟨both.1, ?_⟩
  have has := both.2
  unfold hasExtension at has ⊢
  cases extension : extension? reference with
  | none =>
    rw [extension] at has
    cases has
  | some ext =>
    rw [extension] at has
    obtain ⟨e, listed, same⟩ := List.any_eq_true.mp has
    exact List.any_eq_true.mpr ⟨e, subset listed, same⟩

theorem candidates_empty (isCached : String → Bool) (page : Url) (extensions : List String) :
    candidates isCached page extensions "" = [] := by
  simp [candidates, references, attributeValues, valuesFrom, firstsBy]

theorem candidates_eq_nil {isCached : String → Bool}
    (cached : ∀ key ∈ keys page extensions body, isCached key = true) :
    candidates isCached page extensions body = [] := by
  refine List.map_eq_nil_iff.mp ((map_fst_candidates isCached page extensions body).trans ?_)
  refine List.filter_eq_nil_iff.mpr fun key member => ?_
  rw [cached key (mem_firstsBy_id.mp member)]
  exact Bool.false_ne_true

end LiveSession.Assets
