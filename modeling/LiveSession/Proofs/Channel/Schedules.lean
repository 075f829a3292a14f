import LiveSession.Proofs.Channel.Race

/-!
# Races under any schedule

A race that is run ends with the first occurrence, in the order of delivery, that is stamped before
the deadline and accepted, or else with the deadline. It makes no difference when the task is polled,
or whether it meets the timer or the queue first.
-/

namespace LiveSession.Race

variable {α : Type} {deadline now : Nat} {accept : List Occurrence → Occurrence → Option α}
  {delivered seen os : List Occurrence} {o : Occurrence} {result : RaceResult α}

/-! ### What a race should end with -/

/-- The occurrences that are stamped before a deadline. -/
def early (deadline : Nat) (os : List Occurrence) : List Occurrence :=
  os.filter fun o => o.time < deadline

/-- All are refused when `accept` is asked about one after the other. -/
def Refused (accept : List Occurrence → Occurrence → Option α) (os : List Occurrence) : Prop :=
  ∀ before o, before ++ [o] <+: os → accept before o = none

/-- What a race should end with after these occurrences, and what `accept` has been asked about then:
all up to the first that is accepted in time, or all that were in time. -/
inductive Verdict (deadline : Nat) (accept : List Occurrence → Occurrence → Option α)
    (delivered : List Occurrence) : List Occurrence → RaceResult α → Prop
  | accepted {before : List Occurrence} {o : Occurrence} {v : α}
      (found : before ++ [o] <+: delivered) (inTime : ∀ p ∈ before ++ [o], p.time < deadline)
      (refused : Refused accept before) (value : accept before o = some v) :
      Verdict deadline accept delivered (before ++ [o]) (.resolved v)
  | elapsed {seen : List Occurrence} (all : early deadline delivered = seen)
      (refused : Refused accept seen) : Verdict deadline accept delivered seen .elapsed

theorem early_of_all (inTime : ∀ o ∈ os, o.time < deadline) : early deadline os = os :=
  List.filter_eq_self.mpr fun o member => decide_eq_true (inTime o member)

theorem early_of_none (late : ∀ o ∈ os, deadline ≤ o.time) : early deadline os = [] :=
  List.filter_eq_nil_iff.mpr fun o member => by simpa using late o member

theorem early_prefix (sub : os <+: delivered) (inTime : ∀ o ∈ os, o.time < deadline) :
    os <+: early deadline delivered :=
  early_of_all inTime ▸ sub.filter _

theorem refused_nil : Refused accept [] := by
  intro before o sub
  simp at sub

theorem Refused.concat (refused : Refused accept os) (no : accept os o = none) :
    Refused accept (os ++ [o]) := by
  intro before p sub
  rcases List.prefix_concat_iff.mp sub with same | earlier
  · obtain ⟨rfl, last⟩ := List.append_inj' same rfl
    rw [List.singleton_inj.mp last]
    exact no
  · exact refused before p earlier

theorem Refused.not_accepted {before : List Occurrence} {v : α} (refused : Refused accept os)
    (value : accept before o = some v) : ¬ before ++ [o] <+: os := by
  intro inside
  have no := refused before o inside
  rw [value] at no
  cases no

/-- What was refused in time is a part of what `accept` is asked about, whatever comes later. -/
theorem Verdict.prefix_seen (verdict : Verdict deadline accept delivered seen result)
    (sub : os <+: delivered) (inTime : ∀ o ∈ os, o.time < deadline) (refused : Refused accept os) :
    os <+: seen := by
  cases verdict with
  | accepted found _ _ value =>
    rcases List.prefix_or_prefix_of_prefix sub found with inside | beyond
    · exact inside
    · exact absurd beyond (refused.not_accepted value)
  | elapsed all _ => exact all ▸ early_prefix sub inTime

theorem Verdict.inTime (verdict : Verdict deadline accept delivered seen result) :
    ∀ o ∈ seen, o.time < deadline := by
  cases verdict with
  | accepted _ inTime _ _ => exact inTime
  | elapsed all _ =>
    subst all
    intro o member
    exact of_decide_eq_true (List.mem_filter.mp member).2

theorem Refused.eq_of_prefix {before before' : List Occurrence} {o' : Occurrence} {v : α}
    (refused : Refused accept before') (value : accept before o = some v)
    (inside : before ++ [o] <+: before' ++ [o']) : before ++ [o] = before' ++ [o'] :=
  (List.prefix_concat_iff.mp inside).resolve_right (refused.not_accepted value)

theorem accepted_unique {before before' : List Occurrence} {o' : Occurrence} {v v' : α}
    (refused : Refused accept before) (value : accept before o = some v)
    (refused' : Refused accept before') (value' : accept before' o' = some v')
    (found : before ++ [o] <+: delivered) (found' : before' ++ [o'] <+: delivered) :
    before ++ [o] = before' ++ [o'] := by
  rcases List.prefix_or_prefix_of_prefix found found' with inside | inside
  · exact refused'.eq_of_prefix value inside
  · exact (refused.eq_of_prefix value' inside).symm

theorem Verdict.unique {seen' : List Occurrence} {result' : RaceResult α}
    (verdict : Verdict deadline accept delivered seen result)
    (verdict' : Verdict deadline accept delivered seen' result') :
    seen = seen' ∧ result = result' := by
  cases verdict with
  | accepted found inTime refused value =>
    cases verdict' with
    | accepted found' _ refused' value' =>
      have same := accepted_unique refused value refused' value' found found'
      obtain ⟨rfl, last⟩ := List.append_inj' same rfl
      obtain rfl := List.singleton_inj.mp last
      rw [value] at value'
      exact ⟨rfl, congrArg _ (Option.some.inj value')⟩
    | elapsed all' refused' =>
      exact absurd (all' ▸ early_prefix found inTime) (refused'.not_accepted value)
  | elapsed all refused =>
    cases verdict' with
    | accepted found' inTime' _ value' =>
      exact absurd (all ▸ early_prefix found' inTime') (refused.not_accepted value')
    | elapsed all' _ => exact ⟨all.symm.trans all', rfl⟩

/-! ### What one step does -/

/-- The occurrences that are queued. Nothing is queued once the listeners are gone. -/
def arrivals : List Move → List Occurrence
  | [] => []
  | .arrival o :: moves => o :: arrivals moves
  | .drop _ :: _ => []
  | .poll _ _ :: moves => arrivals moves

variable {moves : List Move} {w w' : Waiter α}

/-- The occurrences that have still to be taken. -/
def Waiter.ahead (w : Waiter α) (moves : List Move) : List Occurrence :=
  w.queue ++ if w.dropped then [] else arrivals moves

/-- What a poll of the task does. -/
inductive Proceeds (deadline : Nat) (accept : List Occurrence → Occurrence → Option α) (now : Nat)
    (w : Waiter α) : Waiter α → Prop
  | takes {o : Occurrence} {queue : List Occurrence} (head : w.queue = o :: queue)
      (stage : w.stage = .waiting ∨ w.stage = .expired) :
      Proceeds deadline accept now w (w.take deadline accept o queue)
  | strands (stage : w.stage = .waiting) (empty : w.queue = []) (dropped : w.dropped = true) :
      Proceeds deadline accept now w { w with stage := .stranded }
  | expires (stage : w.stage = .waiting) (late : deadline ≤ now) :
      Proceeds deadline accept now w { w with stage := .expired }
  | givesUp (stage : w.stage = .expired) (empty : w.queue = []) :
      Proceeds deadline accept now w { w with stage := .ended .elapsed }
  | wakes (stage : w.stage = .stranded) (late : deadline ≤ now) :
      Proceeds deadline accept now w { w with stage := .ended .elapsed }
  | waits (early : now < deadline) : Proceeds deadline accept now w w
  | hasEnded {result : RaceResult α} (stage : w.stage = .ended result) :
      Proceeds deadline accept now w w

theorem proceeds_ring (stage : w.stage = .waiting) :
    Proceeds deadline accept now w (w.ring deadline now) := by
  unfold Waiter.ring
  split
  · rename_i late
    exact .expires stage late
  · rename_i early
    exact .waits (Nat.lt_of_not_le early)

theorem proceeds (w : Waiter α) (now : Nat) (served : Bool) :
    Proceeds deadline accept now w (w.proceed deadline accept now served) := by
  unfold Waiter.proceed
  split
  · rename_i stage
    split
    · split
      · rename_i head
        exact .takes head (.inl stage)
      · rename_i empty
        split
        · rename_i dropped
          exact .strands stage empty dropped
        · exact proceeds_ring stage
    · exact proceeds_ring stage
  · rename_i stage
    split
    · rename_i head
      exact .takes head (.inr stage)
    · rename_i empty
      exact .givesUp stage empty
  · rename_i stage
    split
    · rename_i late
      exact .wakes stage late
    · rename_i early
      exact .waits (Nat.lt_of_not_le early)
  · rename_i stage
    exact .hasEnded stage

theorem step_arrival (deadline : Nat) (accept : List Occurrence → Occurrence → Option α)
    (w : Waiter α) (o : Occurrence) :
    (w.step deadline accept (.arrival o)).stage = w.stage ∧
      (w.step deadline accept (.arrival o)).shown = w.shown := by
  cases dropped : w.dropped <;> simp [Waiter.step, dropped]

theorem ahead_arrival (w : Waiter α) (o : Occurrence) (moves : List Move) :
    (w.step deadline accept (.arrival o)).ahead moves = w.ahead (.arrival o :: moves) := by
  unfold Waiter.ahead Waiter.step
  cases dropped : w.dropped <;> simp [arrivals, dropped]

theorem ahead_drop (w : Waiter α) (moves : List Move) :
    (w.step deadline accept (.drop now)).ahead moves = w.ahead (.drop now :: moves) := by
  unfold Waiter.ahead Waiter.step
  cases w.dropped <;> rfl

theorem ahead_poll (w : Waiter α) (served : Bool) (moves : List Move) :
    w.ahead (.poll now served :: moves) = w.ahead moves := rfl

theorem take_of_late {queue : List Occurrence} (late : deadline ≤ o.time) :
    w.take deadline accept o queue = { w with queue, stage := .ended .elapsed } :=
  if_pos late

theorem take_of_accepted {queue : List Occurrence} {v : α} (inTime : o.time < deadline)
    (value : accept w.shown o = some v) :
    w.take deadline accept o queue =
      { w with queue, stage := .ended (.resolved v), shown := w.shown ++ [o] } := by
  rw [Waiter.take, if_neg (Nat.not_le_of_lt inTime), value]

theorem take_of_refused {queue : List Occurrence} (inTime : o.time < deadline)
    (no : accept w.shown o = none) :
    w.take deadline accept o queue =
      { w with queue, stage := .waiting, shown := w.shown ++ [o] } := by
  rw [Waiter.take, if_neg (Nat.not_le_of_lt inTime), no]

theorem ahead_take {queue : List Occurrence} (head : w.queue = o :: queue) (moves : List Move) :
    w.ahead moves = o :: (w.take deadline accept o queue).ahead moves := by
  unfold Waiter.ahead Waiter.take
  rw [head]
  by_cases late : deadline ≤ o.time
  · rw [if_pos late]
    rfl
  · rw [if_neg late]
    rfl

theorem mem_of_mem_arrivals (member : o ∈ arrivals moves) : .arrival o ∈ moves := by
  induction moves with
  | nil => cases member
  | cons m moves ih =>
    cases m with
    | arrival p =>
      rcases List.mem_cons.mp member with rfl | later
      · exact List.mem_cons_self
      · exact List.mem_cons_of_mem _ (ih later)
    | drop now => cases member
    | poll now served => exact List.mem_cons_of_mem _ (ih member)

theorem arrivals_replicate (n : Nat) (served : Bool) :
    arrivals (List.replicate n (.poll now served)) = [] := by
  induction n with
  | zero => rfl
  | succ n ih => exact ih

/-! ### What a run keeps -/

/-- What `accept` was asked about was in time and refused, and what is ahead follows it. -/
structure Going (deadline : Nat) (accept : List Occurrence → Occurrence → Option α)
    (delivered : List Occurrence) (w : Waiter α) (moves : List Move) : Prop where
  split : w.shown ++ w.ahead moves = delivered
  inTime : ∀ o ∈ w.shown, o.time < deadline
  refused : Refused accept w.shown

/-- A race stands as it should between the moves that are behind it and those that are ahead. -/
inductive Sound (deadline : Nat) (accept : List Occurrence → Occurrence → Option α)
    (delivered : List Occurrence) (w : Waiter α) (moves : List Move) : Prop
  | waiting (stage : w.stage = .waiting) (going : Going deadline accept delivered w moves)
  | expired (stage : w.stage = .expired) (going : Going deadline accept delivered w moves)
      (late : ∀ m ∈ moves, deadline ≤ m.time)
  | stranded (stage : w.stage = .stranded) (going : Going deadline accept delivered w moves)
      (nothing : w.ahead moves = [])
  | ended {result : RaceResult α} (stage : w.stage = .ended result)
      (verdict : Verdict deadline accept delivered w.shown result)

variable {moves' : List Move}

theorem Going.carry (going : Going deadline accept delivered w moves)
    (shown : w'.shown = w.shown) (ahead : w'.ahead moves' = w.ahead moves) :
    Going deadline accept delivered w' moves' where
  split := by rw [shown, ahead, going.split]
  inTime := shown ▸ going.inTime
  refused := shown ▸ going.refused

theorem Sound.carry (sound : Sound deadline accept delivered w moves) (stage : w'.stage = w.stage)
    (shown : w'.shown = w.shown) (ahead : w'.ahead moves' = w.ahead moves) (sub : moves' ⊆ moves) :
    Sound deadline accept delivered w' moves' := by
  cases sound with
  | waiting at_ going => exact .waiting (stage.trans at_) (going.carry shown ahead)
  | expired at_ going late =>
    exact .expired (stage.trans at_) (going.carry shown ahead) fun m member => late m (sub member)
  | stranded at_ going nothing =>
    exact .stranded (stage.trans at_) (going.carry shown ahead) (ahead.trans nothing)
  | ended at_ verdict => exact .ended (stage.trans at_) (shown ▸ verdict)

theorem Sound.going (sound : Sound deadline accept delivered w moves)
    (stage : w.stage = .waiting ∨ w.stage = .expired) : Going deadline accept delivered w moves := by
  cases sound with
  | waiting _ going => exact going
  | expired _ going _ => exact going
  | stranded at_ _ _ => simp [at_] at stage
  | ended at_ _ => simp [at_] at stage

theorem Going.elapsed (going : Going deadline accept delivered w moves)
    (late : ∀ o ∈ w.ahead moves, deadline ≤ o.time) :
    Verdict deadline accept delivered w.shown .elapsed := by
  refine .elapsed ?_ going.refused
  rw [← going.split, early, List.filter_append]
  show early deadline w.shown ++ early deadline (w.ahead moves) = w.shown
  rw [early_of_all going.inTime, early_of_none late, List.append_nil]

theorem Going.take (going : Going deadline accept delivered w moves) (ordered : Ordered delivered)
    {queue : List Occurrence} (head : w.queue = o :: queue) :
    Sound deadline accept delivered (w.take deadline accept o queue) moves := by
  have ahead : w.ahead moves = o :: (w.take deadline accept o queue).ahead moves :=
    ahead_take head moves
  have split : w.shown ++ [o] ++ (w.take deadline accept o queue).ahead moves = delivered := by
    rw [← going.split, ahead, List.append_assoc]
    rfl
  rcases Nat.lt_or_ge o.time deadline with inTime | late
  · have all : ∀ p ∈ w.shown ++ [o], p.time < deadline := by
      simpa [or_imp, forall_and] using ⟨going.inTime, inTime⟩
    cases judged : accept w.shown o with
    | some v =>
      rw [take_of_accepted inTime judged]
      exact .ended rfl (.accepted ⟨_, split⟩ all going.refused judged)
    | none =>
      rw [take_of_refused inTime judged] at split ⊢
      exact .waiting rfl ⟨split, all, going.refused.concat judged⟩
  · rw [take_of_late late]
    refine .ended rfl (going.elapsed ?_)
    rw [← going.split] at ordered
    have behind := (List.pairwise_append.mp ordered).2.1
    rw [ahead] at behind ⊢
    exact Ordered.late behind late

/-- A poll of the task keeps a race sound when nothing that is still to happen is older. -/
theorem Proceeds.sound (polled : Proceeds deadline accept now w w')
    (sound : Sound deadline accept delivered w moves) (ordered : Ordered delivered)
    (since : ∀ m ∈ moves, now ≤ m.time) : Sound deadline accept delivered w' moves := by
  cases polled with
  | takes head stage => exact (sound.going stage).take ordered head
  | strands stage empty dropped =>
    refine .stranded rfl ((sound.going (.inl stage)).carry rfl rfl) ?_
    simp [Waiter.ahead, empty, dropped]
  | expires stage late =>
    refine .expired rfl ((sound.going (.inl stage)).carry rfl rfl) ?_
    exact fun m member => Nat.le_trans late (since m member)
  | givesUp stage empty =>
    cases sound with
    | expired _ going late =>
      -- The timer had fired before the queue was found empty: what may still arrive is late.
      refine .ended rfl (going.elapsed fun o member => ?_)
      rw [Waiter.ahead, empty, List.nil_append] at member
      split at member
      · cases member
      · exact late _ (mem_of_mem_arrivals member)
    | waiting at_ | stranded at_ | ended at_ => cases at_.symm.trans stage
  | wakes stage late =>
    cases sound with
    | stranded _ going nothing =>
      refine .ended rfl (going.elapsed fun o member => ?_)
      rw [nothing] at member
      cases member
    | waiting at_ | expired at_ | ended at_ => cases at_.symm.trans stage
  | waits _ => exact sound
  | hasEnded _ => exact sound

theorem Sound.step {m : Move} (sound : Sound deadline accept delivered w (m :: moves))
    (ordered : Ordered delivered) (since : ∀ m' ∈ moves, m.time ≤ m'.time) :
    Sound deadline accept delivered (w.step deadline accept m) moves := by
  have later : moves ⊆ m :: moves := List.subset_cons_self m moves
  cases m with
  | arrival o =>
    obtain ⟨stage, shown⟩ := step_arrival deadline accept w o
    exact sound.carry stage shown (ahead_arrival w o moves) later
  | drop now => exact sound.carry rfl rfl (ahead_drop w moves) later
  | poll now served =>
    have before := sound.carry rfl rfl (ahead_poll w served moves).symm later
    exact (proceeds w now served).sound before ordered since

/-- The clock does not go back, and an occurrence carries the time at which it is queued. -/
def Chronological (moves : List Move) : Prop :=
  moves.Pairwise fun m m' => m.time ≤ m'.time

theorem Sound.run (sound : Sound deadline accept delivered w moves) (ordered : Ordered delivered)
    (chronological : Chronological moves) :
    Sound deadline accept delivered (w.run deadline accept moves) [] := by
  -- What is delivered in all is fixed, while `ahead` shrinks with the moves that are left.
  induction moves generalizing w with
  | nil => exact sound
  | cons m moves ih =>
    obtain ⟨since, rest⟩ := List.pairwise_cons.mp chronological
    exact ih (sound.step ordered since) rest

/-! ### What brings a race to its end -/

/-- A poll of the task at or after the deadline. -/
def Move.isLatePoll (deadline : Nat) : Move → Bool
  | .poll now _ => deadline ≤ now
  | _ => false

def latePolls (deadline : Nat) (moves : List Move) : Nat :=
  moves.countP (Move.isLatePoll deadline)

/-- How often the task must still be polled after the deadline, at most: twice for each occurrence in
time, and twice to learn that there are no more. -/
def Waiter.effort (deadline : Nat) (w : Waiter α) (moves : List Move) : Nat :=
  match w.stage with
  | .waiting => 2 * (early deadline (w.ahead moves)).length + 2
  | .expired => 2 * (early deadline (w.ahead moves)).length + 1
  | .stranded => 1
  | .ended _ => 0

theorem effort_waiting (stage : w.stage = .waiting) :
    w.effort deadline moves = 2 * (early deadline (w.ahead moves)).length + 2 := by
  rw [Waiter.effort, stage]

theorem effort_expired (stage : w.stage = .expired) :
    w.effort deadline moves = 2 * (early deadline (w.ahead moves)).length + 1 := by
  rw [Waiter.effort, stage]

theorem effort_of_ahead (stage : w'.stage = w.stage) (ahead : w'.ahead moves' = w.ahead moves) :
    w'.effort deadline moves' = w.effort deadline moves := by
  rw [Waiter.effort, Waiter.effort, stage, ahead]

theorem effort_take {queue : List Occurrence} (head : w.queue = o :: queue) :
    (w.take deadline accept o queue).effort deadline moves ≤
      2 * (early deadline (w.ahead moves)).length := by
  have ahead : w.ahead moves = o :: (w.take deadline accept o queue).ahead moves :=
    ahead_take head moves
  rw [ahead]
  rcases Nat.lt_or_ge o.time deadline with inTime | late
  · cases judged : accept w.shown o with
    | some v =>
      rw [take_of_accepted inTime judged]
      exact Nat.zero_le _
    | none =>
      rw [take_of_refused inTime judged]
      simp [Waiter.effort, early, inTime]
      omega
  · rw [take_of_late late]
    exact Nat.zero_le _

theorem Proceeds.effort (polled : Proceeds deadline accept now w w') (moves : List Move) :
    w'.effort deadline moves ≤ w.effort deadline moves - if deadline ≤ now then 1 else 0 := by
  have one : (if deadline ≤ now then 1 else 0) ≤ 1 := by split <;> omega
  cases polled with
  | @takes o queue head stage =>
    have taken : (w.take deadline accept o queue).effort deadline moves ≤
        2 * (early deadline (w.ahead moves)).length := effort_take head
    have before : 2 * (early deadline (w.ahead moves)).length + 1 ≤ w.effort deadline moves := by
      rcases stage with waiting | expired
      · rw [effort_waiting waiting]
        exact Nat.le_succ _
      · exact Nat.le_of_eq (effort_expired expired).symm
    omega
  | strands stage empty dropped =>
    rw [effort_waiting stage]
    show 1 ≤ _
    omega
  | expires stage late =>
    rw [effort_waiting stage, effort_expired rfl]
    show 2 * (early deadline (w.ahead moves)).length + 1 ≤ _
    omega
  | givesUp stage empty => exact Nat.zero_le _
  | wakes stage late => exact Nat.zero_le _
  | waits early =>
    rw [if_neg (Nat.not_le_of_lt early)]
    exact Nat.le_refl _
  | hasEnded stage =>
    unfold Waiter.effort
    rw [stage]
    exact Nat.zero_le _

theorem effort_step (w : Waiter α) (m : Move) (moves : List Move) :
    (w.step deadline accept m).effort deadline moves ≤
      w.effort deadline (m :: moves) - if m.isLatePoll deadline then 1 else 0 := by
  cases m with
  | arrival o =>
    exact Nat.le_of_eq (effort_of_ahead (step_arrival deadline accept w o).1 (ahead_arrival w o moves))
  | drop now => exact Nat.le_of_eq (effort_of_ahead rfl (ahead_drop w moves))
  | poll now served =>
    simp only [Move.isLatePoll, decide_eq_true_eq]
    exact (proceeds w now served).effort moves

theorem effort_run (w : Waiter α) (moves : List Move) :
    (w.run deadline accept moves).effort deadline [] ≤
      w.effort deadline moves - latePolls deadline moves := by
  induction moves generalizing w with
  | nil => exact Nat.le_refl _
  | cons m moves ih =>
    have first : (w.step deadline accept m).effort deadline moves ≤
        w.effort deadline (m :: moves) - if m.isLatePoll deadline then 1 else 0 :=
      effort_step w m moves
    have rest := ih (w.step deadline accept m)
    rw [latePolls, List.countP_cons]
    unfold latePolls at rest
    have same : w.run deadline accept (m :: moves) =
      (w.step deadline accept m).run deadline accept moves := rfl
    rw [same]
    omega

theorem ended_of_effort (nothingLeft : w.effort deadline moves = 0) :
    ∃ result, w.stage = .ended result := by
  unfold Waiter.effort at nothingLeft
  split at nothingLeft
  · cases nothingLeft
  · cases nothingLeft
  · cases nothingLeft
  · rename_i result stage
    exact ⟨result, stage⟩

/-! ### How a race ends -/

theorem sound_start {collected : List Occurrence}
    (delivers : collected ++ arrivals moves = delivered) :
    Sound deadline accept delivered (.start collected) moves :=
  .waiting rfl ⟨delivers, nofun, refused_nil⟩

theorem effort_start {collected : List Occurrence}
    (delivers : collected ++ arrivals moves = delivered) :
    (Waiter.start collected : Waiter α).effort deadline moves =
      2 * (early deadline delivered).length + 2 := by
  rw [← delivers]
  rfl

theorem ended_of_latePolls (accept : List Occurrence → Occurrence → Option α)
    {collected : List Occurrence} (delivers : collected ++ arrivals moves = delivered)
    (enough : 2 * (early deadline delivered).length + 2 ≤ latePolls deadline moves) :
    ∃ result, ((Waiter.start collected).run deadline accept moves).stage = .ended result := by
  have spent : ((Waiter.start collected).run deadline accept moves).effort deadline [] ≤
      (Waiter.start collected : Waiter α).effort deadline moves - latePolls deadline moves :=
    effort_run _ moves
  rw [effort_start delivers] at spent
  have nothingLeft : ((Waiter.start collected).run deadline accept moves).effort deadline [] = 0 := by
    omega
  exact ended_of_effort nothingLeft

/-- Occurrences in the order of their times call for an end: for the one that a race comes to which
finds them all in its queue. -/
theorem exists_verdict (deadline : Nat) (accept : List Occurrence → Occurrence → Option α)
    (ordered : Ordered delivered) :
    ∃ seen result, Verdict deadline accept delivered seen result := by
  let polls := List.replicate (2 * (early deadline delivered).length + 2) (Move.poll deadline true)
  have delivers : delivered ++ arrivals polls = delivered := by
    rw [arrivals_replicate, List.append_nil]
  have late : (Move.poll deadline true).isLatePoll deadline = true :=
    decide_eq_true (Nat.le_refl deadline)
  have polled : latePolls deadline polls = 2 * (early deadline delivered).length + 2 := by
    rw [latePolls, List.countP_replicate, if_pos late]
  have chronological : Chronological polls := List.pairwise_replicate.mpr (.inr (Nat.le_refl _))
  obtain ⟨result, stage⟩ := ended_of_latePolls accept delivers (Nat.le_of_eq polled.symm)
  cases (sound_start delivers).run ordered chronological with
  | ended _ verdict => exact ⟨_, _, verdict⟩
  | waiting at_ | expired at_ | stranded at_ => cases at_.symm.trans stage

theorem Sound.concludes (sound : Sound deadline accept delivered w moves)
    (verdict : Verdict deadline accept delivered seen result) :
    w.shown <+: seen ∧ ∀ other, w.result? = some other → w.shown = seen ∧ other = result := by
  unfold Waiter.result?
  cases sound with
  | waiting stage going | expired stage going | stranded stage going =>
    have sub := verdict.prefix_seen ⟨_, going.split⟩ going.inTime going.refused
    exact ⟨sub, fun other ended => by simp [stage] at ended⟩
  | ended stage verdict' =>
    obtain ⟨same, end_⟩ := verdict'.unique verdict
    refine ⟨same ▸ List.prefix_refl _, fun other ended => ⟨same, ?_⟩⟩
    rw [stage] at ended
    exact (Option.some.inj ended).symm.trans end_

/-- A run of a race in which these occurrences are delivered: some have been collected before, and the
others arrive between the polls of the task. -/
structure Schedules (delivered collected : List Occurrence) (moves : List Move) : Prop where
  delivers : collected ++ arrivals moves = delivered
  chronological : Chronological moves

/-- Occurrences in the order of their times call for one end, and no schedule gives a race another. On
its way there, `accept` is asked about the occurrences in their order, and about no late one. The race
ends when it has been polled often enough after the deadline, if not before. -/
theorem run_verdict (deadline : Nat) (accept : List Occurrence → Occurrence → Option α)
    (ordered : Ordered delivered) :
    ∃ seen result, Verdict deadline accept delivered seen result ∧
      ∀ collected moves, Schedules delivered collected moves →
        let w := (Waiter.start collected).run deadline accept moves
        (w.shown <+: seen ∧ ∀ o ∈ w.shown, o.time < deadline) ∧
          (∀ other, w.result? = some other → w.shown = seen ∧ other = result) ∧
          (2 * (early deadline delivered).length + 2 ≤ latePolls deadline moves →
            w.result? = some result) := by
  obtain ⟨seen, result, verdict⟩ := exists_verdict deadline accept ordered
  refine ⟨seen, result, verdict, fun collected moves schedules => ?_⟩
  have sound : Sound deadline accept delivered
      ((Waiter.start collected).run deadline accept moves) [] :=
    (sound_start schedules.delivers).run ordered schedules.chronological
  obtain ⟨sub, ends⟩ := sound.concludes verdict
  refine ⟨⟨sub, fun o member => verdict.inTime o (sub.subset member)⟩, ends, fun enough => ?_⟩
  obtain ⟨other, stage⟩ := ended_of_latePolls accept schedules.delivers enough
  have ended : ((Waiter.start collected).run deadline accept moves).result? = some other := by
    rw [Waiter.result?, stage]
  rw [ended, (ends other ended).2]

/-- The second of three occurrences is accepted, although the task comes to the timer first. -/
theorem run_verdict_timer_first :
    let first : Occurrence := ⟨"pong", [], 10⟩
    let second : Occurrence := ⟨"pong", [], 99⟩
    let third : Occurrence := ⟨"pong", [], 104⟩
    let accept : List Occurrence → Occurrence → Option Nat :=
      fun before o => if before.isEmpty then none else some o.time
    let moves : List Move :=
      [.poll 20 true, .arrival second, .poll 103 false, .arrival third] ++
        List.replicate 5 (.poll 105 false)
    Ordered [first, second, third] ∧ Schedules [first, second, third] [first] moves ∧
      6 ≤ latePolls 100 moves ∧ ∃ seen, Verdict 100 accept [first, second, third] seen (.resolved 99) ∧
        ((Waiter.start [first]).run 100 accept moves).result? = some (.resolved 99) := by
  intro first second third accept moves
  have ordered : Ordered [first, second, third] := by simp [Ordered, first, second, third]
  have schedules : Schedules [first, second, third] [first] moves :=
    ⟨rfl, by simp [Chronological, Move.time, moves, second, third]⟩
  obtain ⟨seen, result, verdict, all⟩ := run_verdict 100 accept ordered
  obtain ⟨-, ends, enough⟩ := all [first] moves schedules
  have known : ((Waiter.start [first]).run 100 accept moves).result? = some (.resolved 99) := rfl
  have same := (ends _ known).2
  refine ⟨ordered, schedules, by decide, seen, same ▸ verdict, ?_⟩
  rw [same]
  exact enough (by decide)

/-! ### A task that finds all that is queued -/

theorem run_ended (stage : w.stage = .ended result) (n : Nat) (served : Bool) :
    (w.run deadline accept (List.replicate n (.poll now served))).result? = some result := by
  induction n with
  | zero =>
    show w.result? = some result
    rw [Waiter.result?, stage]
  | succ n ih =>
    have still : w.step deadline accept (.poll now served) = w := by
      rw [Waiter.step, Waiter.proceed, stage]
    show ((w.step deadline accept (.poll now served)).run deadline accept _).result? = _
    rw [still]
    exact ih

/-- The end of a race as it is known at some time is the end to which the task comes that is polled then
and finds all that is queued. -/
theorem poll_eq_run (accept : Occurrence → Option α) (queue shown : List Occurrence) :
    poll deadline accept now queue =
      (({ queue, shown } : Waiter α).run deadline (fun _ => accept)
        (List.replicate (queue.length + 2) (.poll now true))).result? := by
  induction queue generalizing shown with
  | nil =>
    by_cases reached : deadline ≤ now
    · simp [poll, read, Waiter.run, Waiter.step, Waiter.proceed, Waiter.ring, Waiter.result?, reached]
    · simp [poll, read, Waiter.run, Waiter.step, Waiter.proceed, Waiter.ring, Waiter.result?, reached]
  | cons o queue ih =>
    show _ = ((({ queue := o :: queue, shown } : Waiter α).take deadline (fun _ => accept) o queue).run
      deadline (fun _ => accept) (List.replicate (queue.length + 2) (.poll now true))).result?
    unfold poll read
    rcases Nat.lt_or_ge o.time deadline with inTime | late
    · rw [if_neg (Nat.not_le_of_lt inTime)]
      cases judged : accept o with
      | some v =>
        rw [take_of_accepted inTime judged, run_ended rfl]
      | none =>
        rw [take_of_refused inTime judged]
        exact ih (shown ++ [o])
    · rw [if_pos late, take_of_late late, run_ended rfl]

end LiveSession.Race
