import LiveSession.Proofs.Cookie.Lifetime

/-!
# The order of the cookies

A jar is a map from names to values that keeps its names in the order in which they came in.
`entries_chronological` reads the entries of a jar off the whole history of what was done to it, and
says that every other view of the jar tells the same.
-/

namespace LiveSession

/-- What can be done to a jar. -/
inductive CookieOperation where
  | set (name value : String)
  | remove (name : String)
  | clear
  /-- A response sets a cookie, at a date. -/
  | store (now : Int) (header : String)
  deriving DecidableEq, Repr

/-- What comes of it. -/
inductive CookieEffect where
  | sets (name value : String)
  | removes (name : String)
  | clears
  | nothing
  deriving DecidableEq, Repr

/-- The header of a response sets or removes the cookie that it describes, if it describes one. -/
def CookieOperation.effect : CookieOperation → CookieEffect
  | .set name value => .sets name value
  | .remove name => .removes name
  | .clear => .clears
  | .store now header =>
    match SetCookie.described? header with
    | none => .nothing
    | some (name, value) =>
      if (SetCookie.read? header).any (·.isOver now) then .removes name else .sets name value

namespace CookieEffect

/-- What an effect leaves of one name: a value or none, if it is about that name at all. -/
def leaves? (name : String) : CookieEffect → Option (Option String)
  | .sets other value => if other = name then some (some value) else none
  | .removes other => if other = name then some none else none
  | .clears => some none
  | .nothing => none

/-- What the last effect about a name has left of it. -/
def latest? (name : String) (history : List CookieEffect) : Option String :=
  (history.reverse.findSome? (leaves? name)).join

/-- The name, absent before the effect at `i`, has been there ever since. -/
structure CameIn (name : String) (history : List CookieEffect) (i : Nat) : Prop where
  before : i < history.length
  absent : latest? name (history.take i) = none
  since : ∀ k, i < k → k ≤ history.length → latest? name (history.take k) ≠ none

/-! ### Histories -/

variable {name : String} {history : List CookieEffect} {effect : CookieEffect} {i j : Nat}

theorem latest?_concat (name : String) (history : List CookieEffect) (effect : CookieEffect) :
    latest? name (history ++ [effect]) = (effect.leaves? name).getD (latest? name history) := by
  unfold latest?
  rw [List.reverse_append, List.reverse_singleton, List.singleton_append, List.findSome?_cons]
  cases effect.leaves? name <;> rfl

theorem CameIn.present (came : CameIn name history i) : latest? name history ≠ none := by
  have whole := came.since history.length came.before (Nat.le_refl _)
  rwa [List.take_length] at whole

theorem CameIn.unique (one : CameIn name history i) (another : CameIn name history j) : i = j := by
  rcases Nat.lt_trichotomy i j with earlier | same | later
  · exact absurd another.absent (one.since j earlier (Nat.le_of_lt another.before))
  · exact same
  · exact absurd one.absent (another.since i later (Nat.le_of_lt one.before))

theorem cameIn_concat : CameIn name (history ++ [effect]) i ↔
    latest? name (history ++ [effect]) ≠ none ∧
      (CameIn name history i ∨ i = history.length ∧ latest? name history = none) := by
  constructor
  · intro came
    refine ⟨came.present, ?_⟩
    have ⟨before, absent, since⟩ := came
    rw [List.length_append, List.length_singleton] at before since
    rcases Nat.lt_or_eq_of_le (Nat.le_of_lt_succ before) with earlier | rfl
    · refine .inl ⟨earlier, ?_, fun k later within => ?_⟩
      · rwa [List.take_append_of_le_length (Nat.le_of_lt earlier)] at absent
      · have there := since k later (Nat.le_succ_of_le within)
        rwa [List.take_append_of_le_length within] at there
    · rw [List.take_left] at absent
      exact .inr ⟨rfl, absent⟩
  · rintro ⟨present, ⟨before, absent, since⟩ | ⟨rfl, absent⟩⟩
    · refine ⟨?_, ?_, fun k later within => ?_⟩
      · rw [List.length_append]
        omega
      · rwa [List.take_append_of_le_length (Nat.le_of_lt before)]
      · rw [List.length_append, List.length_singleton] at within
        rcases Nat.lt_or_eq_of_le within with inside | rfl
        · rw [List.take_append_of_le_length (Nat.le_of_lt_succ inside)]
          exact since k later (Nat.le_of_lt_succ inside)
        · rwa [List.take_of_length_le (by rw [List.length_append, List.length_singleton])]
    · refine ⟨?_, ?_, fun k later within => ?_⟩
      · rw [List.length_append, List.length_singleton]
        omega
      · rwa [List.take_left]
      · rwa [List.take_of_length_le (by rw [List.length_append, List.length_singleton]; omega)]

theorem exists_cameIn (present : latest? name history ≠ none) : ∃ i, CameIn name history i := by
  induction history using List.reverseRecOn with
  | nil => exact absurd rfl present
  | append_singleton history effect ih =>
    by_cases absent : latest? name history = none
    · exact ⟨_, cameIn_concat.mpr ⟨present, .inr ⟨rfl, absent⟩⟩⟩
    · obtain ⟨i, came⟩ := ih absent
      exact ⟨i, cameIn_concat.mpr ⟨present, .inl came⟩⟩

end CookieEffect

namespace CookieJar

open CookieEffect

def perform (jar : CookieJar) : CookieOperation → CookieJar
  | .set name value => jar.set name value
  | .remove name => jar.remove name
  | .clear => {}
  | .store now header => jar.store now header

/-- The jar after some operations, in order, from an empty one. -/
def ofOperations (operations : List CookieOperation) : CookieJar :=
  operations.foldl perform {}

def apply (jar : CookieJar) : CookieEffect → CookieJar
  | .sets name value => jar.set name value
  | .removes name => jar.remove name
  | .clears => {}
  | .nothing => jar

/-- The entries of the jar are what a history of effects has left, in the order in which the names
came in. -/
structure IsChronological (jar : CookieJar) (history : List CookieEffect) : Prop where
  distinct : jar.entries.names.Nodup
  latest : ∀ name value, (name, value) ∈ jar.entries ↔ latest? name history = some value
  came : ∀ name ∈ jar.entries.names, ∃! i, CameIn name history i
  ordered : jar.entries.names.Pairwise fun a b =>
    ∀ i j, CameIn a history i → CameIn b history j → i < j

variable {jar : CookieJar} {history : List CookieEffect} {effect : CookieEffect}
  {name value : String}

/-! ### One operation -/

theorem perform_eq (jar : CookieJar) (operation : CookieOperation) :
    jar.perform operation = jar.apply operation.effect := by
  cases operation with
  | set | remove | clear => rfl
  | store now header =>
    simp only [perform, store, CookieOperation.effect, SetCookie.read?_eq]
    cases SetCookie.described? header with
    | none => rfl
    | some cookie =>
      simp only [Option.map_some, Option.any_some]
      split <;> rfl

theorem get?_apply (jar : CookieJar) (effect : CookieEffect) (name : String) :
    (jar.apply effect).get? name = (effect.leaves? name).getD (jar.get? name) := by
  cases effect with
  | sets other value =>
    by_cases same : other = name
    · rw [leaves?, if_pos same, ← same]
      exact Entries.find?_set_self other value jar.entries
    · rw [leaves?, if_neg same]
      exact Entries.find?_set_other value jar.entries (Ne.symm same)
  | removes other =>
    by_cases same : other = name
    · rw [leaves?, if_pos same, ← same]
      exact Entries.find?_erase_self other jar.entries
    · rw [leaves?, if_neg same]
      exact Entries.find?_erase_other jar.entries (Ne.symm same)
  | clears => rfl
  | nothing => rfl

theorem nodup_apply (distinct : jar.entries.names.Nodup) (effect : CookieEffect) :
    (jar.apply effect).entries.names.Nodup := by
  cases effect with
  | sets name value => exact Entries.nodup_set distinct name value
  | removes name => exact Entries.nodup_erase distinct name
  | clears => exact List.nodup_nil
  | nothing => exact distinct

/-- An effect keeps the order of the names that it leaves, and puts a new one at the end. -/
theorem names_apply (jar : CookieJar) (effect : CookieEffect) :
    (jar.apply effect).entries.names.Sublist jar.entries.names ∨
      ∃ name, name ∉ jar.entries.names ∧
        (jar.apply effect).entries.names = jar.entries.names ++ [name] := by
  cases effect with
  | sets name value =>
    have names := Entries.names_set name value jar.entries
    by_cases present : name ∈ jar.entries.names
    · rw [if_pos present] at names
      exact .inl (names ▸ List.Sublist.refl _)
    · rw [if_neg present] at names
      exact .inr ⟨name, present, names⟩
  | removes name => exact .inl (List.filter_sublist.map _)
  | clears => exact .inl (List.nil_sublist _)
  | nothing => exact .inl (List.Sublist.refl _)

theorem mem_names : name ∈ jar.entries.names ↔ jar.get? name ≠ none := by
  rw [Option.ne_none_iff_exists']
  exact ⟨Entries.exists_of_mem_names, fun ⟨_, found⟩ => Entries.mem_names_of_find? found⟩

/-! ### Whole histories -/

theorem get?_foldl_apply (history : List CookieEffect) (name : String) :
    (history.foldl apply {}).get? name = latest? name history := by
  induction history using List.reverseRecOn with
  | nil => rfl
  | append_singleton history effect ih =>
    rw [List.foldl_append, List.foldl_cons, List.foldl_nil, get?_apply, latest?_concat, ih]

theorem nodup_foldl_apply (history : List CookieEffect) :
    (history.foldl apply {}).entries.names.Nodup := by
  induction history using List.reverseRecOn with
  | nil => exact List.nodup_nil
  | append_singleton history effect ih =>
    rw [List.foldl_append]
    exact nodup_apply ih effect

theorem ordered_foldl_apply (history : List CookieEffect) :
    (history.foldl apply {}).entries.names.Pairwise fun a b =>
      ∀ i j, CameIn a history i → CameIn b history j → i < j := by
  induction history using List.reverseRecOn with
  | nil => exact List.Pairwise.nil
  | append_singleton history effect ih =>
    rw [List.foldl_append, List.foldl_cons, List.foldl_nil]
    generalize same : history.foldl apply {} = jar at ih ⊢
    -- A name that was there before has not come in with the last effect.
    have earlier {name : String} {i : Nat} (member : name ∈ jar.entries.names)
        (came : CameIn name (history ++ [effect]) i) : CameIn name history i := by
      rw [mem_names, ← same, get?_foldl_apply] at member
      exact (cameIn_concat.mp came).2.resolve_right fun new => member new.2
    have kept : jar.entries.names.Pairwise fun a b =>
        ∀ i j, CameIn a (history ++ [effect]) i → CameIn b (history ++ [effect]) j → i < j :=
      ih.imp_of_mem fun ina inb ordered i j camea cameb =>
        ordered i j (earlier ina camea) (earlier inb cameb)
    rcases names_apply jar effect with fewer | ⟨new, absent, names⟩
    · exact kept.sublist fewer
    · rw [names, List.pairwise_append]
      refine ⟨kept, List.pairwise_singleton _ _, fun a member b last i j camea cameb => ?_⟩
      cases List.mem_singleton.mp last
      rw [mem_names, ← same, get?_foldl_apply, not_not] at absent
      have new : j = history.length :=
        ((cameIn_concat.mp cameb).2.resolve_left fun came => came.present absent).1
      exact new ▸ (earlier member camea).before

theorem ofOperations_eq (operations : List CookieOperation) :
    ofOperations operations = (operations.map CookieOperation.effect).foldl apply {} := by
  unfold ofOperations
  rw [List.foldl_map]
  congr
  funext jar operation
  exact jar.perform_eq operation

theorem isChronological_ofOperations (operations : List CookieOperation) :
    (ofOperations operations).IsChronological (operations.map CookieOperation.effect) := by
  rw [ofOperations_eq]
  generalize operations.map CookieOperation.effect = history
  have distinct := nodup_foldl_apply history
  refine ⟨distinct, fun name value => ?_, fun name member => ?_, ordered_foldl_apply history⟩
  · rw [← get?_foldl_apply]
    exact ⟨Entries.find?_of_mem distinct, Entries.mem_of_find?⟩
  · rw [mem_names, get?_foldl_apply] at member
    obtain ⟨i, came⟩ := exists_cameIn member
    exact ⟨i, came, fun j again => again.unique came⟩

/-! ### Other views of the jar -/

namespace IsChronological

theorem get? (chronological : jar.IsChronological history) (name : String) :
    jar.get? name = latest? name history := by
  ext value
  rw [← chronological.latest]
  exact ⟨Entries.mem_of_find?, Entries.find?_of_mem chronological.distinct⟩

theorem mem_names (chronological : jar.IsChronological history) :
    name ∈ jar.entries.names ↔ latest? name history ≠ none := by
  rw [CookieJar.mem_names, chronological.get?]

theorem contains (chronological : jar.IsChronological history) (name : String) :
    jar.contains name = (latest? name history).isSome := by
  have member : jar.contains name = true ↔ name ∈ jar.entries.names := by
    simp [CookieJar.contains, Entries.holds, Entries.names]
  rw [Bool.eq_iff_iff, member, chronological.mem_names, Option.isSome_iff_ne_none]

theorem size_eq (chronological : jar.IsChronological history) {present : List String}
    (distinct : present.Nodup) (whole : ∀ name, name ∈ present ↔ latest? name history ≠ none) :
    jar.size = present.length := by
  have same : jar.entries.names.Perm present :=
    (List.perm_ext_iff_of_nodup chronological.distinct distinct).mpr fun name => by
      rw [chronological.mem_names, whole]
  rw [← same.length_eq, Entries.names, List.length_map]
  rfl

theorem size_remove (chronological : jar.IsChronological history) (name : String) :
    (jar.remove name).size ≠ jar.size ↔ latest? name history ≠ none := by
  have all : (jar.remove name).size = jar.size ↔ ∀ entry ∈ jar.entries, entry.1 ≠ name := by
    unfold CookieJar.remove CookieJar.size Entries.erase
    rw [List.length_filter_eq_length_iff]
    simp only [decide_eq_true_eq]
  rw [ne_eq, all, ← chronological.mem_names, Entries.names, List.mem_map]
  push Not
  rfl

end IsChronological

theorem join_eq_intercalate (sep : String) (texts : List String) :
    Text.join sep texts = sep.intercalate texts := by
  induction texts with
  | nil => exact String.intercalate_nil.symm
  | cons first rest ih =>
    cases rest with
    | nil => exact String.intercalate_singleton.symm
    | cons next rest =>
      rw [String.intercalate_cons_cons, ← ih]
      rfl

/-- The entries of a jar are the names that are there with the values that they were given last, in
the order in which they came in. Lookup, size and header tell the same, a removal tells whether the
name was there, and to set a name that is there changes its value in its place. -/
theorem entries_chronological (operations : List CookieOperation) :
    let jar := ofOperations operations
    let history := operations.map CookieOperation.effect
    jar.IsChronological history ∧
    (∀ name, jar.get? name = latest? name history) ∧
    (∀ present : List String, present.Nodup →
      (∀ name, name ∈ present ↔ latest? name history ≠ none) → jar.size = present.length) ∧
    (jar.entries = [] ↔ ∀ name, latest? name history = none) ∧
    jar.header? = (if jar.entries = [] then none
      else some ("; ".intercalate (jar.entries.map fun e => e.1 ++ "=" ++ e.2))) ∧
    (∀ name, (jar.contains name = true ↔ latest? name history ≠ none) ∧
      ((jar.remove name).size ≠ jar.size ↔ latest? name history ≠ none)) ∧
    ∀ name value, latest? name history ≠ none →
      (jar.set name value).entries =
        jar.entries.map fun e => if e.1 = name then (name, value) else e := by
  intro jar history
  have chronological : jar.IsChronological history := isChronological_ofOperations operations
  refine ⟨chronological, chronological.get?, fun present distinct whole =>
    chronological.size_eq distinct whole, ?_, ?_, fun name => ⟨?_, chronological.size_remove name⟩,
    fun name value present => ?_⟩
  · rw [← List.map_eq_nil_iff, List.eq_nil_iff_forall_not_mem]
    exact forall_congr' fun name => chronological.mem_names.not.trans not_not
  · unfold header?
    rw [join_eq_intercalate]
    simp only [List.isEmpty_iff]
  · rw [chronological.contains, Option.isSome_iff_ne_none]
  · exact Entries.set_of_mem chronological.distinct (chronological.mem_names.mpr present) value

-- A name that was taken away comes in again at the end; one that stayed keeps its place.
example : (ofOperations [.set "a" "1", .set "b" "2", .store 0 "a=; Max-Age=0", .set "a" "3",
    .set "b" "4"]).entries = [("b", "4"), ("a", "3")] := by
  decide

end CookieJar

end LiveSession
