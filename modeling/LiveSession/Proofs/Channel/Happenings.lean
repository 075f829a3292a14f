import LiveSession.Channel.Listeners
import Mathlib.Data.List.Induction
import Mathlib.Data.List.Nodup

/-!
# What has happened to a registry

A log tells which listeners are registered at its end, `inForce`, and what each dispatch has called
and answered. `Happening.Right` says what a happening has to tell after a log for the log to be true.
-/

namespace LiveSession

open Listeners

variable {α : Type}

namespace Happening

def added? : Happening α → Option (Registration α)
  | .added r => some r
  | _ => none

def undoes (r : Registration α) : Happening α → Bool
  | .removed event id _ => isAt event id r
  | _ => false

def callFor? (i : Nat) : Happening α → Option (Registration α × List Json)
  | .called j r args => if j = i then some (r, args) else none
  | _ => none

def answerOf? (i : Nat) : Happening α → Option Nat
  | .returned j answer => if j = i then some answer else none
  | _ => none

end Happening

/-- The registrations that a log tells of. -/
def made (log : List (Happening α)) : List (Registration α) :=
  log.filterMap Happening.added?

/-- The registrations that a log tells of and nothing behind them undoes, in order. -/
def inForce : List (Happening α) → List (Registration α)
  | [] => []
  | h :: log =>
    match h.added? with
    | some r => if log.any fun later => later.undoes r then inForce log else r :: inForce log
    | none => inForce log

/-- The listeners for an event at the end of a log. -/
def targets (log : List (Happening α)) (event : String) : List (Registration α) :=
  (inForce log).filter fun r => r.event == event

def calls (i : Nat) (log : List (Happening α)) : List (Registration α × List Json) :=
  log.filterMap fun h => h.callFor? i

def answers (i : Nat) (log : List (Happening α)) : List Nat :=
  log.filterMap fun h => h.answerOf? i

variable {log : List (Happening α)} {h : Happening α} {i : Nat}

theorem made_append (log : List (Happening α)) (h : Happening α) :
    made (log ++ [h]) = made log ++ h.added?.toList := by
  rw [made, List.filterMap_append]
  cases found : h.added? <;> simp [made, found]

theorem inForce_append (log : List (Happening α)) (h : Happening α) :
    inForce (log ++ [h]) = ((inForce log).filter fun r => !h.undoes r) ++ h.added?.toList := by
  induction log with
  | nil => cases found : h.added? <;> simp [inForce, found]
  | cons first log ih =>
    rw [List.cons_append, inForce, inForce, ih]
    cases found : first.added? with
    | none => rfl
    | some r =>
      simp only [List.any_append, List.any_cons, List.any_nil, Bool.or_false]
      cases gone : log.any fun later => later.undoes r with
      | true => simp
      | false => cases undone : h.undoes r <;> simp [undone]

theorem inForce_sublist (log : List (Happening α)) : (inForce log).Sublist (made log) := by
  induction log with
  | nil => exact .slnil
  | cons h log ih =>
    rw [inForce, made, List.filterMap_cons]
    cases h.added? with
    | none => exact ih
    | some r =>
      dsimp only
      split
      · exact ih.cons r
      · exact ih.cons_cons r

/-- A log that tells of registrations only. -/
theorem made_added (rs : List (Registration α)) : made (rs.map .added) = rs := by
  rw [made, List.filterMap_map]
  exact List.filterMap_some

theorem inForce_added (rs : List (Registration α)) : inForce (rs.map .added) = rs := by
  induction rs with
  | nil => rfl
  | cons r rs ih =>
    have kept : (rs.map Happening.added).any (fun later => later.undoes r) = false := by
      rw [List.any_map]
      exact List.any_eq_false.mpr fun _ _ undone => by cases undone
    simp only [List.map_cons, inForce, Happening.added?, kept, ih, Bool.false_eq_true, if_false]

theorem calls_append (i : Nat) (log : List (Happening α)) (h : Happening α) :
    calls i (log ++ [h]) = calls i log ++ (h.callFor? i).toList := by
  rw [calls, List.filterMap_append]
  cases found : h.callFor? i <;> simp [calls, found]

theorem answers_append (i : Nat) (log : List (Happening α)) (h : Happening α) :
    answers i (log ++ [h]) = answers i log ++ (h.answerOf? i).toList := by
  rw [answers, List.filterMap_append]
  cases found : h.answerOf? i <;> simp [answers, found]

theorem getElem?_snoc {x : Happening α} (found : (log ++ [h])[i]? = some x) :
    (log[i]? = some x ∧ (log ++ [h]).take i = log.take i) ∨
      (i = log.length ∧ h = x ∧ (log ++ [h]).take i = log) := by
  rw [List.getElem?_append] at found
  split at found
  · rename_i inside
    exact .inl ⟨found, List.take_append_of_le_length (Nat.le_of_lt inside)⟩
  · rename_i outside
    have here : i - log.length = 0 := by
      by_contra later
      rw [List.getElem?_eq_none (Nat.pos_of_ne_zero later)] at found
      cases found
    have same : i = log.length := by omega
    rw [here] at found
    exact .inr ⟨same, Option.some.inj found, by rw [same, List.take_left]⟩

/-- What a happening tells is right, after a log. -/
def Happening.Right (log : List (Happening α)) : Happening α → Prop
  | .added r => ∀ r' ∈ made log, r'.id < r.id
  | .removed event id answer => answer = true ↔ ∃ r ∈ inForce log, r.event = event ∧ r.id = id
  | .counted event answer => answer = (targets log event).length
  | .sized answer => answer = (inForce log).length
  | .dispatched _ _ => True
  | .called i _ args => ∃ event, log[i]? = some (.dispatched event args)
  | .returned i _ => ∃ event args, log[i]? = some (.dispatched event args)

/-- A happening that is no part of a dispatch. -/
structure Happening.Plain (h : Happening α) : Prop where
  callFor? : ∀ i, h.callFor? i = none
  answerOf? : ∀ i, h.answerOf? i = none
  ne_dispatched : ∀ event args, h ≠ .dispatched event args

theorem getElem?_log_snoc {x : Happening α} (found : log[i]? = some x) :
    (log ++ [h])[i]? = some x := by
  rw [List.getElem?_append_left (List.getElem?_eq_some_iff.mp found).1, found]

theorem right_snoc
    (right : ∀ (i : Nat) (x : Happening α), log[i]? = some x → x.Right (log.take i))
    (new : h.Right log) : ∀ (i : Nat) (x : Happening α),
      (log ++ [h])[i]? = some x → x.Right ((log ++ [h]).take i) := by
  intro i x found
  rcases getElem?_snoc found with ⟨old, same⟩ | ⟨_, rfl, same⟩
  · rw [same]
    exact right i x old
  · rw [same]
    exact new

theorem made_pairwise
    (right : ∀ (i : Nat) (x : Happening α), log[i]? = some x → x.Right (log.take i)) :
    (made log).Pairwise fun r r' => r.id < r'.id := by
  induction log using List.reverseRecOn with
  | nil => exact .nil
  | append_singleton log h ih =>
    have before (i : Nat) (x : Happening α) (found : log[i]? = some x) : x.Right (log.take i) := by
      have inside : i ≤ log.length := Nat.le_of_lt (List.getElem?_eq_some_iff.mp found).1
      have right := right i x (getElem?_log_snoc found)
      rwa [List.take_append_of_le_length inside] at right
    have last := right log.length h List.getElem?_concat_length
    rw [List.take_left] at last
    rw [made_append, List.pairwise_append]
    cases h with
    | added r =>
      refine ⟨ih before, List.pairwise_singleton _ _, fun r' earlier r'' new => ?_⟩
      rw [List.mem_singleton.mp new]
      exact last r' earlier
    | _ => exact ⟨ih before, .nil, nofun⟩

end LiveSession
