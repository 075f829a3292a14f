import LiveSession.Script.Basic
import Mathlib.Algebra.Group.Int.Defs
import Mathlib.Algebra.Group.Nat.Defs
import Mathlib.Data.List.Forall2

/-!
# Which documents are scripts

A document is a script if it is an object that has a name and lists actions, whose delays are whole
numbers of milliseconds. Its checks come in a fixed order: the object, the name, the list, the entries
from the first to the last, each with its delay before its action, and last the delay of the script.
`Script.ofJson_iff_isScript` says what is read from a document, and which of several faults is told.
-/

namespace LiveSession

namespace ScriptObject

/-! ### What the members say -/

/-- The delay that a member `delay` says: none if it is missing or `null`. -/
inductive IsDelay : Option Json → Option Span → Prop
  | missing : IsDelay none none
  | null : IsDelay (some .null) none
  | millis {n : Nat} (below : n < 2 ^ 64) : IsDelay (some (.int n)) (some (.fixed n))

/-- What is wrong with a member `delay`. -/
inductive IsNoDelay : Option Json → Error → Prop
  | outside {n : Int} (outside : n < 0 ∨ 2 ^ 64 ≤ n) :
    IsNoDelay (some (.int n))
      (.invalidScript ("delay must be whole milliseconds, got " ++ (Json.int n).render))
  | fraction {x : Binary64} :
    IsNoDelay (some (.float x))
      (.invalidScript ("delay must be whole milliseconds, got " ++ (Json.float x).render))
  | shape {v : Json} (solid : v ≠ .null) (whole : ∀ n, v ≠ .int n) (fraction : ∀ x, v ≠ .float x) :
    IsNoDelay (some v) (.invalidScript ("delay must be a number, got " ++ v.render))

/-- Entries that are no objects have no member `delay`. -/
structure IsStep (entry : Json) (step : ScriptStep) : Prop where
  delay : IsDelay (entry.get? "delay") step.delay
  action : Action.ofJson entry = .ok step.action

/-- What is wrong with an entry; its delay counts before its action. -/
inductive IsNoStep (entry : Json) : Error → Prop
  | delay {e : Error} (wrong : IsNoDelay (entry.get? "delay") e) : IsNoStep entry e
  | action {e : Error} {own : Option Span} (delay : IsDelay (entry.get? "delay") own)
    (refused : Action.ofJson entry = .error e) : IsNoStep entry e

def HasName (v : Json) (name : String) : Prop :=
  v.get? "name" = some (.str name) ∧ ∃ c ∈ name.toList, Text.isBlank c = false

def Lists (v : Json) (entries : List Json) : Prop :=
  v.get? "actions" = some (.arr entries)

end ScriptObject

namespace Json

open ScriptObject

def HasDelay (v : Json) : Prop :=
  v.get? "delay" = none ∨ v.get? "delay" = some .null ∨
    ∃ n : Nat, n < 2 ^ 64 ∧ v.get? "delay" = some (.int n)

def IsScript (v : Json) : Prop :=
  ∃ members, v = .obj members ∧ (∃ name, HasName v name) ∧ v.HasDelay ∧
    ∃ entries, Lists v entries ∧ ∀ entry ∈ entries,
      (∃ a, Action.ofJson entry = .ok a) ∧ ∀ fields, entry = .obj fields → entry.HasDelay

/-- The script that a document is, with one step for each entry. -/
structure DenotesScript (v : Json) (s : Script) : Prop where
  object : ∃ members, v = .obj members
  name : HasName v s.name
  steps : ∃ entries, Lists v entries ∧ List.Forall₂ IsStep entries s.steps
  delay : IsDelay (v.get? "delay") s.delay

/-- What is wrong with a document that is no script; what comes first counts. -/
inductive RefusedAsScript (v : Json) : Error → Prop
  | shape (other : ∀ members, v ≠ .obj members) :
    RefusedAsScript v (.invalidScript "script must be an object")
  | name {members : Entries Json} (object : v = .obj members) (unnamed : ∀ name, ¬ HasName v name) :
    RefusedAsScript v (.invalidScript "script requires a non-empty name")
  | actions {members : Entries Json} {name : String} (object : v = .obj members)
    (named : HasName v name) (unlisted : ∀ entries, ¬ Lists v entries) :
    RefusedAsScript v (.invalidScript ("script " ++ Text.quoted name ++ " requires an actions array"))
  | step {members : Entries Json} {name : String} {before after : List Json} {entry : Json} {e : Error}
    (object : v = .obj members) (named : HasName v name)
    (listed : Lists v (before ++ entry :: after)) (good : ∀ x ∈ before, ∃ step, IsStep x step)
    (bad : IsNoStep entry e) : RefusedAsScript v e
  | delay {members : Entries Json} {name : String} {entries : List Json} {e : Error}
    (object : v = .obj members) (named : HasName v name) (listed : Lists v entries)
    (good : ∀ x ∈ entries, ∃ step, IsStep x step) (bad : IsNoDelay (v.get? "delay") e) :
    RefusedAsScript v e

end Json

/-! ### Checks one after the other -/

section

variable {α β : Type} {x : Except Error α} {f : α → Except Error β} {e : Error}

theorem bind_eq_ok {b : β} : (x >>= f) = .ok b ↔ ∃ a, x = .ok a ∧ f a = .ok b := by
  cases x <;> simp [bind, Except.bind]

theorem bind_eq_error : (x >>= f) = .error e ↔ x = .error e ∨ ∃ a, x = .ok a ∧ f a = .error e := by
  cases x <;> simp [bind, Except.bind]

end

namespace Script

open ScriptObject

variable {v entry : Json} {found : Option Json} {own : Option Span} {step : ScriptStep}
  {entries : List Json} {steps : List ScriptStep} {name : String} {e : Error}

/-! ### Delays -/

theorem readDelay_eq_ok : readDelay found = .ok own ↔ IsDelay found own := by
  constructor
  · intro read
    unfold readDelay at read
    split at read
    · cases read
      exact .missing
    · cases read
      exact .null
    · rename_i n
      split at read
      · rename_i within
        cases read
        have same : (n.toNat : Int) = n := Int.toNat_of_nonneg within.1
        have below : n.toNat < 2 ^ 64 := by
          have := within.2
          simp only [millisLimit, Json.wordLimit] at this
          omega
        rw [← same]
        exact .millis below
      · cases read
    · cases read
    · cases read
  · intro is
    cases is with
    | missing => rfl
    | null => rfl
    | @millis n below =>
      have within : (0 : Int) ≤ n ∧ (n : Int) < millisLimit := by
        simp only [millisLimit, Json.wordLimit]
        omega
      simp only [readDelay, if_pos within, Int.toNat_natCast]

theorem readDelay_eq_error : readDelay found = .error e ↔ IsNoDelay found e := by
  constructor
  · intro read
    unfold readDelay readDelay.fractional at read
    split at read
    · cases read
    · cases read
    · split at read
      · cases read
      · rename_i without
        cases read
        simp only [millisLimit, Json.wordLimit] at without
        exact .outside (by omega)
    · cases read
      exact .fraction
    · rename_i solid whole fraction
      cases read
      exact .shape solid whole fraction
  · intro is
    cases is with
    | @outside n outside =>
      have without : ¬ (0 ≤ n ∧ n < millisLimit) := by
        simp only [millisLimit, Json.wordLimit]
        omega
      simp only [readDelay, if_neg without, readDelay.fractional]
    | fraction => rfl
    | @shape v solid whole fraction =>
      cases v with
      | null => exact absurd rfl solid
      | int n => exact absurd rfl (whole n)
      | float x => exact absurd rfl (fraction x)
      | _ => rfl

theorem hasDelay_iff : v.HasDelay ↔ ∃ own, IsDelay (v.get? "delay") own := by
  unfold Json.HasDelay
  constructor
  · rintro (missing | null | ⟨n, below, whole⟩)
    · rw [missing]
      exact ⟨_, .missing⟩
    · rw [null]
      exact ⟨_, .null⟩
    · rw [whole]
      exact ⟨_, .millis below⟩
  · rintro ⟨own, is⟩
    generalize v.get? "delay" = found at is
    cases is with
    | missing => exact .inl rfl
    | null => exact .inr (.inl rfl)
    | @millis n below => exact .inr (.inr ⟨n, below, rfl⟩)

/-! ### Entries -/

theorem readStep_eq (entry : Json) :
    readStep entry = (do
      let delay ← readDelay (entry.get? "delay")
      let action ← Action.ofJson entry
      return { action, delay }) := by
  cases entry <;> rfl

theorem readStep_eq_ok : readStep entry = .ok step ↔ IsStep entry step := by
  rw [readStep_eq, bind_eq_ok]
  constructor
  · rintro ⟨own, delay, after⟩
    obtain ⟨a, action, same⟩ := bind_eq_ok.mp after
    cases same
    exact ⟨readDelay_eq_ok.mp delay, action⟩
  · rintro ⟨delay, action⟩
    exact ⟨_, readDelay_eq_ok.mpr delay, bind_eq_ok.mpr ⟨_, action, rfl⟩⟩

theorem readStep_eq_error : readStep entry = .error e ↔ IsNoStep entry e := by
  rw [readStep_eq, bind_eq_error]
  constructor
  · rintro (delay | ⟨own, delay, after⟩)
    · exact .delay (readDelay_eq_error.mp delay)
    · obtain action | ⟨_, _, same⟩ := bind_eq_error.mp after
      · exact .action (readDelay_eq_ok.mp delay) action
      · cases same
  · intro wrong
    cases wrong with
    | delay wrong => exact .inl (readDelay_eq_error.mpr wrong)
    | action delay refused =>
      exact .inr ⟨_, readDelay_eq_ok.mpr delay, bind_eq_error.mpr (.inl refused)⟩

theorem readSteps_eq_ok : readSteps entries = .ok steps ↔ List.Forall₂ IsStep entries steps := by
  induction entries generalizing steps with
  | nil => cases steps <;> simp [readSteps]
  | cons entry rest ih =>
    rw [readSteps, bind_eq_ok]
    constructor
    · rintro ⟨step, first, after⟩
      obtain ⟨steps', others, same⟩ := bind_eq_ok.mp after
      cases same
      exact .cons (readStep_eq_ok.mp first) (ih.mp others)
    · intro each
      cases each with
      | cons first others =>
        exact ⟨_, readStep_eq_ok.mpr first, bind_eq_ok.mpr ⟨_, ih.mpr others, rfl⟩⟩

/-- The first entry that is wrong decides, whatever comes after it. -/
theorem readSteps_eq_error :
    readSteps entries = .error e ↔ ∃ before entry after, entries = before ++ entry :: after ∧
      (∀ x ∈ before, ∃ step, IsStep x step) ∧ IsNoStep entry e := by
  induction entries with
  | nil => simp [readSteps]
  | cons first rest ih =>
    rw [readSteps, bind_eq_error]
    constructor
    · rintro (wrong | ⟨step, read, later⟩)
      · exact ⟨[], first, rest, rfl, by simp, readStep_eq_error.mp wrong⟩
      · obtain wrong | ⟨_, _, same⟩ := bind_eq_error.mp later
        · obtain ⟨before, entry, after, rfl, good, bad⟩ := ih.mp wrong
          refine ⟨first :: before, entry, after, rfl, ?_, bad⟩
          exact List.forall_mem_cons.mpr ⟨⟨step, readStep_eq_ok.mp read⟩, good⟩
        · cases same
    · rintro ⟨before, entry, after, split, good, bad⟩
      cases before with
      | nil =>
        cases split
        exact .inl (readStep_eq_error.mpr bad)
      | cons x before =>
        cases split
        have ⟨⟨step, is⟩, good⟩ := List.forall_mem_cons.mp good
        have wrong := ih.mpr ⟨before, entry, after, rfl, good, bad⟩
        exact .inr ⟨step, readStep_eq_ok.mpr is, bind_eq_error.mpr (.inl wrong)⟩

theorem exists_readSteps :
    (∃ steps, readSteps entries = .ok steps) ↔ ∀ x ∈ entries, ∃ step, IsStep x step := by
  simp only [readSteps_eq_ok]
  induction entries with
  | nil => simp
  | cons entry rest ih =>
    rw [List.forall_mem_cons, ← ih]
    constructor
    · rintro ⟨steps, each⟩
      cases each with
      | cons first others => exact ⟨⟨_, first⟩, _, others⟩
    · rintro ⟨⟨step, first⟩, steps, others⟩
      exact ⟨step :: steps, .cons first others⟩

/-! ### Names -/

theorem not_isBlankText_iff :
    Text.isBlankText name = false ↔ ∃ c ∈ name.toList, Text.isBlank c = false := by
  simp [Text.isBlankText]

theorem readName_eq_ok : readName v = .ok name ↔ HasName v name := by
  unfold readName HasName
  rw [← not_isBlankText_iff]
  split
  · rename_i written found
    split
    · rename_i blank
      simp only [reduceCtorEq, found, Option.some.injEq, Json.str.injEq, false_iff, not_and,
        Bool.not_eq_false]
      rintro rfl
      exact blank
    · rename_i solid
      simp only [found, Except.ok.injEq, Option.some.injEq, Json.str.injEq]
      constructor
      · rintro rfl
        exact ⟨rfl, by simpa using solid⟩
      · exact fun both => both.1
  · rename_i other
    simp only [reduceCtorEq, false_iff, not_and]
    exact fun found => absurd found (other name)

theorem readName_eq_error : readName v = .error e ↔ e = unnamed ∧ ∀ name, ¬ HasName v name := by
  have refused (e' : Error) (read : readName v = .error e') : e' = unnamed := by
    unfold readName at read
    split at read
    · split at read
      · cases read
        rfl
      · cases read
    · cases read
      rfl
  cases read : readName v with
  | ok name =>
    have named := readName_eq_ok.mp read
    simp only [reduceCtorEq, false_iff, not_and, not_forall, not_not]
    exact fun _ => ⟨name, named⟩
  | error e' =>
    have none_ (name : String) : ¬ HasName v name := fun named =>
      nomatch read.symm.trans (readName_eq_ok.mpr named)
    rw [Except.error.injEq, refused e' read]
    exact ⟨fun same => ⟨same.symm, none_⟩, fun both => both.1.symm⟩

/-! ### Documents -/

theorem ofJson_eq_ok {s : Script} : ofJson v = .ok s ↔ v.DenotesScript s := by
  constructor
  · intro read
    unfold ofJson at read
    split at read
    · rename_i members
      obtain ⟨name, named, read⟩ := bind_eq_ok.mp read
      split at read
      · rename_i entries listed
        obtain ⟨steps, each, read⟩ := bind_eq_ok.mp read
        obtain ⟨delay, own, same⟩ := bind_eq_ok.mp read
        cases same
        exact ⟨⟨members, rfl⟩, readName_eq_ok.mp named, ⟨entries, listed, readSteps_eq_ok.mp each⟩,
          readDelay_eq_ok.mp own⟩
      · cases read
    · cases read
  · rintro ⟨⟨members, rfl⟩, named, ⟨entries, listed, each⟩, delay⟩
    refine bind_eq_ok.mpr ⟨s.name, readName_eq_ok.mpr named, ?_⟩
    rw [show Json.get? "actions" (.obj members) = some (.arr entries) from listed]
    refine bind_eq_ok.mpr ⟨s.steps, readSteps_eq_ok.mpr each, ?_⟩
    exact bind_eq_ok.mpr ⟨s.delay, readDelay_eq_ok.mpr delay, rfl⟩

theorem ofJson_eq_error : ofJson v = .error e ↔ v.RefusedAsScript e := by
  constructor
  · intro refused
    unfold ofJson at refused
    split at refused
    · rename_i members
      obtain unnamed | ⟨name, named, refused⟩ := bind_eq_error.mp refused
      · obtain ⟨rfl, none_⟩ := readName_eq_error.mp unnamed
        exact .name rfl none_
      · have named := readName_eq_ok.mp named
        split at refused
        · rename_i entries listed
          obtain wrong | ⟨steps, each, refused⟩ := bind_eq_error.mp refused
          · obtain ⟨before, entry, after, rfl, good, bad⟩ := readSteps_eq_error.mp wrong
            exact .step rfl named listed good bad
          · have good := exists_readSteps.mp ⟨steps, each⟩
            obtain wrong | ⟨_, _, same⟩ := bind_eq_error.mp refused
            · exact .delay rfl named listed good (readDelay_eq_error.mp wrong)
            · cases same
        · rename_i unlisted
          cases refused
          exact .actions rfl named unlisted
    · rename_i other
      cases refused
      exact .shape other
  · intro refused
    cases refused with
    | shape other =>
      cases v with
      | obj members => exact absurd rfl (other members)
      | _ => rfl
    | name object unnamed =>
      subst object
      exact bind_eq_error.mpr (.inl (readName_eq_error.mpr ⟨rfl, unnamed⟩))
    | @actions members name object named unlisted =>
      subst object
      refine bind_eq_error.mpr (.inr ⟨name, readName_eq_ok.mpr named, ?_⟩)
      split
      · rename_i entries listed
        exact absurd listed (unlisted entries)
      · rfl
    | step object named listed good bad =>
      subst object
      refine bind_eq_error.mpr (.inr ⟨_, readName_eq_ok.mpr named, ?_⟩)
      rw [listed]
      exact bind_eq_error.mpr (.inl (readSteps_eq_error.mpr ⟨_, _, _, rfl, good, bad⟩))
    | delay object named listed good bad =>
      subst object
      refine bind_eq_error.mpr (.inr ⟨_, readName_eq_ok.mpr named, ?_⟩)
      rw [listed]
      obtain ⟨steps, each⟩ := exists_readSteps.mpr good
      have wrong := readDelay_eq_error.mpr bad
      exact bind_eq_error.mpr (.inr ⟨steps, each, bind_eq_error.mpr (.inl wrong)⟩)

theorem hasDelay_of_not_obj (other : ∀ members, v ≠ .obj members) : v.HasDelay := by
  cases v with
  | obj members => exact absurd rfl (other members)
  | _ => exact .inl rfl

theorem exists_isStep : (∃ step, IsStep entry step) ↔
    (∃ a, Action.ofJson entry = .ok a) ∧ ∀ fields, entry = .obj fields → entry.HasDelay := by
  constructor
  · rintro ⟨step, delay, action⟩
    exact ⟨⟨_, action⟩, fun _ _ => hasDelay_iff.mpr ⟨_, delay⟩⟩
  · rintro ⟨⟨a, action⟩, delay⟩
    have has : entry.HasDelay := by
      by_cases object : ∃ fields, entry = .obj fields
      · exact delay _ object.choose_spec
      · exact hasDelay_of_not_obj (not_exists.mp object)
    obtain ⟨own, is⟩ := hasDelay_iff.mp has
    exact ⟨⟨a, own⟩, is, action⟩

theorem isScript_iff : v.IsScript ↔ ∃ s, v.DenotesScript s := by
  unfold Json.IsScript
  simp only [← exists_isStep, ← exists_readSteps, readSteps_eq_ok]
  rw [hasDelay_iff]
  constructor
  · rintro ⟨members, object, ⟨name, named⟩, ⟨own, delay⟩, entries, listed, steps, each⟩
    exact ⟨⟨name, own, steps⟩, ⟨members, object⟩, named, ⟨entries, listed, each⟩, delay⟩
  · rintro ⟨s, ⟨members, object⟩, named, ⟨entries, listed, each⟩, delay⟩
    exact ⟨members, object, ⟨_, named⟩, ⟨_, delay⟩, entries, listed, _, each⟩

/-- A script is read exactly from the documents that are scripts, with their name, their steps in
order and their delays. Any other document is refused for the first thing that is wrong with it. -/
theorem ofJson_iff_isScript (v : Json) :
    ((∃ s, ofJson v = .ok s) ↔ v.IsScript) ∧ (∀ s, ofJson v = .ok s ↔ v.DenotesScript s) ∧
      ∀ e, ofJson v = .error e ↔ v.RefusedAsScript e := by
  refine ⟨?_, fun _ => ofJson_eq_ok, fun _ => ofJson_eq_error⟩
  rw [isScript_iff]
  exact exists_congr fun _ => ofJson_eq_ok

end Script

end LiveSession
