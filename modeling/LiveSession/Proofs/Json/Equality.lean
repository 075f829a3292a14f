import LiveSession.Json.Basic
import LiveSession.Proofs.Entries
import Mathlib.Algebra.Group.Int.Defs
import Mathlib.Algebra.Group.Nat.Defs
import Mathlib.Data.List.Perm.Subperm

/-!
# Equality of values

Two arrays are equal item by item, two objects if they have the same names and equal members for
each of them, in whatever order, and two floating-point numbers if they are the same number.
`Json.same_iff` says that `Json.same` decides this, of all values without a repeated name.
-/

namespace LiveSession

namespace Binary64

/-- The number in units of `2 ^ -1074`, of which every number of the format is a multiple. -/
def units (x : Binary64) : Int :=
  (if x.negative then -1 else 1) * (x.mantissa * 2 ^ (x.exponent + 1074).toNat)

variable {x y : Binary64}

/-- Each magnitude has one form. -/
theorem Canonical.unique {m n : Nat} {d e : Int} (one : Canonical m d) (another : Canonical n e)
    (same : m * 2 ^ (d + 1074).toNat = n * 2 ^ (e + 1074).toNat) : m = n ∧ d = e := by
  have order {m n : Nat} {d e : Int} (one : Canonical m d) (another : Canonical n e)
      (same : m * 2 ^ (d + 1074).toNat = n * 2 ^ (e + 1074).toNat) : e ≤ d := by
    obtain ⟨below, least, -, -⟩ := one
    obtain ⟨-, -, -, full⟩ := another
    by_contra less
    -- The second exponent is not the least, so its mantissa is full and the first one too large.
    have half : mantissaFull ≤ n := by
      by_contra part
      have := full (by omega)
      omega
    have steps : (e + 1074).toNat = (d + 1074).toNat + ((e - d).toNat - 1) + 1 := by omega
    rw [steps, Nat.pow_succ, Nat.pow_add] at same
    have positive : 0 < 2 ^ (d + 1074).toNat := Nat.two_pow_pos _
    have double : m = n * (2 ^ ((e - d).toNat - 1) * 2) :=
      Nat.eq_of_mul_eq_mul_right positive (by rw [same]; ac_rfl)
    have more : n * 1 ≤ n * 2 ^ ((e - d).toNat - 1) :=
      Nat.mul_le_mul_left n (Nat.one_le_two_pow)
    unfold mantissaFull at half
    unfold mantissaLimit at below
    rw [← Nat.mul_assoc] at double
    omega
  have exponents : d = e := Int.le_antisymm (order another one same.symm) (order one another same)
  subst exponents
  exact ⟨Nat.eq_of_mul_eq_mul_right (Nat.two_pow_pos _) same, rfl⟩

theorem sameValue_iff : x.sameValue y = true ↔ x.units = y.units := by
  have scale (e : Int) : (0 : Int) < 2 ^ (e + 1074).toNat := Int.pow_pos (by decide)
  unfold sameValue
  simp only [Bool.and_eq_true, Bool.or_eq_true, beq_iff_eq, isZero]
  constructor
  · rintro ⟨⟨mantissa, exponent⟩, zero | sign⟩
    · simp [units, ← mantissa, zero]
    · rw [units, units, mantissa, exponent, sign]
  · intro same
    have magnitude : x.mantissa * 2 ^ (x.exponent + 1074).toNat =
        y.mantissa * 2 ^ (y.exponent + 1074).toNat := by
      have := congrArg Int.natAbs same
      simpa [units, Int.natAbs_mul, apply_ite Int.natAbs, Int.natAbs_pow] using this
    obtain ⟨mantissa, exponent⟩ := x.canonical.unique y.canonical magnitude
    refine ⟨⟨mantissa, exponent⟩, ?_⟩
    by_cases zero : x.mantissa = 0
    · exact .inl zero
    · refine .inr ?_
      have positive : (0 : Int) < y.mantissa * 2 ^ (y.exponent + 1074).toNat :=
        Int.mul_pos (by omega) (scale _)
      unfold units at same
      rw [mantissa, exponent] at same
      cases signed : x.negative <;> cases signed' : y.negative <;>
        simp only [signed, signed', if_true, Bool.false_eq_true, if_false] at same ⊢ <;> omega

end Binary64

namespace Json

/-- Two values are equal. -/
inductive Equals : Json → Json → Prop
  | null : Equals .null .null
  | bool (b : Bool) : Equals (.bool b) (.bool b)
  | int (n : Int) : Equals (.int n) (.int n)
  | float {x y : Binary64} (same : x.units = y.units) : Equals (.float x) (.float y)
  | str (s : String) : Equals (.str s) (.str s)
  | arr {as bs : List Json} (length : as.length = bs.length)
    (items : ∀ (i : Nat) (a b : Json), as[i]? = some a → bs[i]? = some b → Equals a b) : Equals (.arr as) (.arr bs)
  | obj {as bs : List (String × Json)}
    (names : ∀ name, name ∈ Entries.names as ↔ name ∈ Entries.names bs)
    (members : ∀ name a b, Entries.find? name as = some a → Entries.find? name bs = some b →
      Equals a b) : Equals (.obj as) (.obj bs)

/-- No object in the value repeats a name. -/
inductive Proper : Json → Prop
  | null : Proper .null
  | bool (b : Bool) : Proper (.bool b)
  | int (n : Int) : Proper (.int n)
  | float (x : Binary64) : Proper (.float x)
  | str (s : String) : Proper (.str s)
  | arr {items : List Json} (each : ∀ item ∈ items, Proper item) : Proper (.arr items)
  | obj {members : List (String × Json)} (distinct : (Entries.names members).Nodup)
    (each : ∀ m ∈ members, Proper m.2) : Proper (.obj members)

variable {a b : Json} {as bs : List Json} {ms ns : List (String × Json)}

theorem sameItems_iff : sameItems as bs = true ↔
    as.length = bs.length ∧
      ∀ (i : Nat) (a b : Json), as[i]? = some a → bs[i]? = some b → same a b = true := by
  induction as generalizing bs with
  | nil => cases bs <;> simp [sameItems]
  | cons a as ih =>
    cases bs with
    | nil => simp [sameItems]
    | cons b bs =>
      rw [sameItems, Bool.and_eq_true, ih]
      constructor
      · rintro ⟨first, length, rest⟩
        refine ⟨congrArg Nat.succ length, fun i a' b' at_a at_b => ?_⟩
        cases i with
        | zero =>
          cases at_a
          cases at_b
          exact first
        | succ i => exact rest i a' b' at_a at_b
      · rintro ⟨length, items⟩
        exact ⟨items 0 a b rfl rfl, Nat.succ.inj length, fun i => items (i + 1)⟩

theorem sameMembers_iff : sameMembers ms ns = true ↔
    ∀ m ∈ ms, ∃ b, Entries.find? m.1 ns = some b ∧ same m.2 b = true := by
  induction ms with
  | nil => simp [sameMembers]
  | cons m ms ih =>
    obtain ⟨name, a⟩ := m
    rw [sameMembers, Bool.and_eq_true, ih, List.forall_mem_cons]
    refine and_congr_left fun _ => ?_
    cases Entries.find? name ns <;> simp

/-- Objects that have as many members have the same names if the second has all of the first. -/
theorem mem_names_iff (distinct : (Entries.names ms).Nodup) (length : ms.length = ns.length)
    (within : ∀ name ∈ Entries.names ms, name ∈ Entries.names ns) (name : String) :
    name ∈ Entries.names ms ↔ name ∈ Entries.names ns := by
  have same : (Entries.names ms).Perm (Entries.names ns) :=
    (List.subperm_of_subset distinct within).perm_of_length_le (by
      rw [Entries.names, Entries.names, List.length_map, List.length_map]
      exact Nat.le_of_eq length.symm)
  exact same.mem_iff

theorem length_eq_of_names (distinct : (Entries.names ms).Nodup) (distinct' : (Entries.names ns).Nodup)
    (names : ∀ name, name ∈ Entries.names ms ↔ name ∈ Entries.names ns) :
    ms.length = ns.length := by
  have same := ((List.perm_ext_iff_of_nodup distinct distinct').mpr names).length_eq
  rwa [Entries.names, Entries.names, List.length_map, List.length_map] at same

/-- Equality is decided, item by item and member by member. -/
theorem same_iff (proper : a.Proper) (proper' : b.Proper) : same a b = true ↔ Equals a b := by
  induction proper generalizing b with
  | null =>
    cases b with
    | null => exact ⟨fun _ => .null, fun _ => rfl⟩
    | _ => exact ⟨nofun, nofun⟩
  | bool x =>
    cases b with
    | bool y =>
      rw [same, beq_iff_eq]
      exact ⟨fun eq => eq ▸ .bool x, fun | .bool _ => rfl⟩
    | _ => exact ⟨nofun, nofun⟩
  | int x =>
    cases b with
    | int y =>
      rw [same, beq_iff_eq]
      exact ⟨fun eq => eq ▸ .int x, fun | .int _ => rfl⟩
    | _ => exact ⟨nofun, nofun⟩
  | float x =>
    cases b with
    | float y =>
      rw [same, Binary64.sameValue_iff]
      exact ⟨.float, fun | .float eq => eq⟩
    | _ => exact ⟨nofun, nofun⟩
  | str x =>
    cases b with
    | str y =>
      rw [same, beq_iff_eq]
      exact ⟨fun eq => eq ▸ .str x, fun | .str _ => rfl⟩
    | _ => exact ⟨nofun, nofun⟩
  | @arr as each ih =>
    cases proper' with
    | @arr bs each' =>
      have item (i : Nat) (a b : Json) (at_a : as[i]? = some a) (at_b : bs[i]? = some b) :=
        ih a (List.mem_of_getElem? at_a) (each' b (List.mem_of_getElem? at_b))
      rw [same, sameItems_iff]
      constructor
      · rintro ⟨length, items⟩
        exact .arr length fun i a b at_a at_b =>
          (item i a b at_a at_b).mp (items i a b at_a at_b)
      · rintro ⟨⟩
        rename_i length items
        exact ⟨length, fun i a b at_a at_b => (item i a b at_a at_b).mpr (items i a b at_a at_b)⟩
    | _ => exact ⟨nofun, nofun⟩
  | @obj ms distinct each ih =>
    cases proper' with
    | @obj ns distinct' each' =>
      rw [same, Bool.and_eq_true, beq_iff_eq, sameMembers_iff]
      have member (name : String) (a b : Json) (in_a : Entries.find? name ms = some a)
          (in_b : Entries.find? name ns = some b) :=
        ih (name, a) (Entries.mem_of_find? in_a) (each' (name, b) (Entries.mem_of_find? in_b))
      constructor
      · rintro ⟨length, members⟩
        refine .obj (mem_names_iff distinct length fun name there => ?_)
          fun name a b in_a in_b => ?_
        · obtain ⟨a, in_a⟩ := Entries.exists_of_mem_names there
          obtain ⟨b, in_b, _⟩ := members _ (Entries.mem_of_find? in_a)
          exact Entries.mem_names_of_find? in_b
        · obtain ⟨b', in_b', eq⟩ := members _ (Entries.mem_of_find? in_a)
          cases in_b.symm.trans in_b'
          exact (member name a b in_a in_b).mp eq
      · rintro ⟨⟩
        rename_i names members
        refine ⟨length_eq_of_names distinct distinct' names, fun m there => ?_⟩
        obtain ⟨b, in_b⟩ :=
          Entries.exists_of_mem_names ((names m.1).mp (List.mem_map_of_mem there))
        have in_a := Entries.find?_of_mem distinct there
        exact ⟨b, in_b, (member m.1 m.2 b in_a in_b).mpr (members m.1 m.2 b in_a in_b)⟩
    | _ => exact ⟨nofun, nofun⟩

end Json

end LiveSession
