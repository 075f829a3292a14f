import LiveSession.Channel.Race

/-!
# Reading a race

The occurrences of a race come in the order of their times. What the race ends with is then the
first one that is accepted among those before the deadline, however many are read at once.
-/

namespace LiveSession.Race

variable {α : Type} {deadline now : Nat} {accept : Occurrence → Option α} {queue : List Occurrence}

def winner? (deadline : Nat) (accept : Occurrence → Option α) (queue : List Occurrence) :
    Option Occurrence :=
  queue.find? fun o => o.time < deadline && (accept o).isSome

def Ordered (queue : List Occurrence) : Prop :=
  queue.Pairwise fun a b => a.time ≤ b.time

theorem Ordered.late {o : Occurrence} (ordered : Ordered (o :: queue)) (late : deadline ≤ o.time) :
    ∀ other ∈ o :: queue, deadline ≤ other.time := by
  intro other member
  rcases List.mem_cons.mp member with rfl | later
  · exact late
  · exact Nat.le_trans late ((List.pairwise_cons.mp ordered).1 other later)

theorem winner?_cons_of_late {o : Occurrence} (ordered : Ordered (o :: queue))
    (late : deadline ≤ o.time) : winner? deadline accept (o :: queue) = none := by
  unfold winner?
  rw [List.find?_eq_none]
  intro other member
  have after := ordered.late late other member
  simp only [Bool.and_eq_true, decide_eq_true_eq, not_and]
  intro early
  omega

theorem read_eq (ordered : Ordered queue) :
    read deadline accept queue =
      match winner? deadline accept queue with
      | some o => (accept o).map .resolved
      | none => if ∃ o ∈ queue, deadline ≤ o.time then some .elapsed else none := by
  induction queue with
  | nil => rfl
  | cons o queue ih =>
    unfold read
    by_cases late : deadline ≤ o.time
    · rw [if_pos late, winner?_cons_of_late ordered late]
      exact (if_pos ⟨o, List.mem_cons_self, late⟩).symm
    · rw [if_neg late]
      cases accepted : accept o with
      | some v =>
        have first : winner? deadline accept (o :: queue) = some o :=
          List.find?_cons_of_pos (by simp [accepted]; omega)
        rw [first]
        simp [accepted]
      | none =>
        have skip : winner? deadline accept (o :: queue) = winner? deadline accept queue :=
          List.find?_cons_of_neg (by simp [accepted])
        have rest : (∃ o' ∈ o :: queue, deadline ≤ o'.time) ↔ ∃ o' ∈ queue, deadline ≤ o'.time := by
          simp [late]
        rw [skip, ih (List.pairwise_cons.mp ordered).2]
        simp only [rest]

/-- What a race is known to end with at a time is told by the first occurrence that is accepted
before the deadline, or by the deadline. -/
theorem poll_eq (ordered : Ordered queue) (past : ∀ o ∈ queue, o.time ≤ now) :
    poll deadline accept now queue =
      match winner? deadline accept queue with
      | some o => (accept o).map .resolved
      | none => if deadline ≤ now then some .elapsed else none := by
  unfold poll
  rw [read_eq ordered]
  cases first : winner? deadline accept queue with
  | some o =>
    have accepted : (accept o).isSome = true := by
      have found := List.find?_some first
      simp only [Bool.and_eq_true] at found
      exact found.2
    obtain ⟨v, hv⟩ := Option.isSome_iff_exists.mp accepted
    simp [hv]
  | none =>
    by_cases late : ∃ o ∈ queue, deadline ≤ o.time
    · obtain ⟨o, member, after⟩ := late
      have reached : deadline ≤ now := Nat.le_trans after (past o member)
      simp only [if_pos reached]
      rw [if_pos ⟨o, member, after⟩]
    · simp only [if_neg late]

end LiveSession.Race
