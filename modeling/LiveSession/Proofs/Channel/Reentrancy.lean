import LiveSession.Proofs.Channel.Happenings
import LiveSession.Proofs.Channel.Listeners

/-!
# Listeners that change the registry that calls them

Whatever a program and its listeners do, the log tells what its registry answers: the listeners are
those that have been added and not removed since, and a dispatch calls those that were registered for
its event when it was started, each once and in the order of their registration.
`registry_faithful` says so for every moment of every run; `dispatch_returns` says that a dispatch
comes back unless a listener does not.
-/

namespace LiveSession

open Listeners

variable {α κ σ : Type} {log : List (Happening α)} {h : Happening α} {i : Nat}

namespace Machine

variable {p : Program α κ σ} {m m' : Machine α κ σ}

/-! ### What a step does -/

/-- What a step does to the registry, the dispatches and the log. -/
inductive Change (m m' : Machine α κ σ) : Prop
  | quiet (entries : m'.listeners.entries = m.listeners.entries)
    (next : m.listeners.next ≤ m'.listeners.next) (dispatches : m'.dispatches = m.dispatches)
    (log : m'.log = m.log)
  | added (event : String) (listener : α)
    (listeners : m'.listeners = m.listeners.add event listener)
    (dispatches : m'.dispatches = m.dispatches)
    (log : m'.log = m.log ++ [.added ⟨m.listeners.next, event, listener⟩])
  | removed (event : String) (id : Nat) (listeners : m'.listeners = m.listeners.remove event id)
    (dispatches : m'.dispatches = m.dispatches)
    (log : m'.log = m.log ++ [.removed event id (m.listeners.holds event id)])
  | counted (event : String) (listeners : m'.listeners = m.listeners)
    (dispatches : m'.dispatches = m.dispatches)
    (log : m'.log = m.log ++ [.counted event (m.listeners.count event)])
  | sized (listeners : m'.listeners = m.listeners) (dispatches : m'.dispatches = m.dispatches)
    (log : m'.log = m.log ++ [.sized m.listeners.size])
  | dispatched (event : String) (args : List Json) (next : Nat → κ)
    (listeners : m'.listeners = m.listeners)
    (dispatches : m'.dispatches =
      ⟨m.log.length, args, m.listeners.on event, m.listeners.count event, next⟩ :: m.dispatches)
    (log : m'.log = m.log ++ [.dispatched event args])
  | called (d : Dispatch α κ) (r : Registration α) (pending : List (Registration α))
    (outer : List (Dispatch α κ)) (innermost : m.dispatches = d :: outer)
    (first : d.pending = r :: pending) (listeners : m'.listeners = m.listeners)
    (dispatches : m'.dispatches = { d with pending } :: outer)
    (log : m'.log = m.log ++ [.called d.number r d.args])
  | returned (d : Dispatch α κ) (outer : List (Dispatch α κ)) (innermost : m.dispatches = d :: outer)
    (done : d.pending = []) (listeners : m'.listeners = m.listeners)
    (dispatches : m'.dispatches = outer) (log : m'.log = m.log ++ [.returned d.number d.count])

theorem change_of_perform (m : Machine α κ σ) (memory : σ) (move : Move α κ) :
    Change m ({ m with memory }.perform move) := by
  cases move with
  | finish => exact .quiet rfl (Nat.le_refl _) rfl rfl
  | idle next => exact .quiet rfl (Nat.le_refl _) rfl rfl
  | add event listener next => exact .added event listener rfl rfl rfl
  | remove event id next => exact .removed event id rfl rfl rfl
  | dispatch event args next => exact .dispatched event args next rfl rfl rfl
  | count event next => exact .counted event rfl rfl rfl
  | size next => exact .sized rfl rfl rfl
  | addElsewhere next => exact .quiet rfl (Nat.le_succ _) rfl rfl

theorem change_of_step (stepped : m.step p = some m') : Change m m' := by
  unfold step at stepped
  split at stepped
  · cases stepped
    exact change_of_perform _ _ _
  · rename_i d outer _ innermost
    cases stepped
    unfold proceed
    split
    · rename_i done
      exact .returned d outer innermost done rfl rfl rfl
    · rename_i r pending first
      exact .called d r pending outer innermost first rfl rfl rfl
  · cases stepped

/-! ### The registry against the log -/

/-- How far a dispatch has come that is to call these listeners. -/
inductive Progress (m : Machine α κ σ) (i : Nat) (args : List Json)
    (targets : List (Registration α)) : Prop
  | waiting (d : Dispatch α κ) (called : List (Registration α)) (member : d ∈ m.dispatches)
    (number : d.number = i) (given : d.args = args) (parts : targets = called ++ d.pending)
    (count : d.count = targets.length) (calls : calls i m.log = called.map fun r => (r, args))
    (answers : answers i m.log = [])
  | ended (closed : ∀ d ∈ m.dispatches, d.number ≠ i)
    (calls : calls i m.log = targets.map fun r => (r, args))
    (answers : answers i m.log = [targets.length])

theorem entries_change (change : Change m m') (entries : m.listeners.entries = inForce m.log) :
    m'.listeners.entries = inForce m'.log := by
  have kept (ls : List (Registration α)) : ls.filter (fun _ => !false) = ls :=
    List.filter_eq_self.mpr fun _ _ => rfl
  cases change with
  | quiet same _ _ log => rw [same, log, entries]
  | added event listener listeners _ log =>
    rw [listeners, log, inForce_append, ← entries]
    exact congrArg (· ++ _) (kept _).symm
  | removed event id listeners _ log =>
    rw [listeners, log, inForce_append, ← entries]
    exact (List.append_nil _).symm
  | counted _ listeners _ log | sized listeners _ log | dispatched _ _ _ listeners _ log
  | called _ _ _ _ _ _ listeners _ log | returned _ _ _ _ listeners _ log =>
    rw [listeners, log, inForce_append, ← entries]
    exact ((List.append_nil _).trans (kept _)).symm

theorem below_change (change : Change m m') (below : ∀ r ∈ made m.log, r.id < m.listeners.next) :
    ∀ r ∈ made m'.log, r.id < m'.listeners.next := by
  cases change with
  | quiet _ next _ log =>
    rw [log]
    exact fun r member => Nat.lt_of_lt_of_le (below r member) next
  | added event listener listeners _ log =>
    rw [listeners, log, made_append]
    intro r member
    rcases List.mem_append.mp member with old | new
    · exact Nat.lt_succ_of_lt (below r old)
    · rw [List.mem_singleton.mp new]
      exact Nat.lt_succ_self _
  | removed _ _ listeners _ log =>
    rw [listeners, log, made_append]
    exact fun r member => below r (by simpa [Happening.added?] using member)
  | counted _ listeners _ log | sized listeners _ log | dispatched _ _ _ listeners _ log
  | called _ _ _ _ _ _ listeners _ log | returned _ _ _ _ listeners _ log =>
    rw [listeners, log, made_append]
    exact fun r member => below r (by simpa [Happening.added?] using member)

/-- The log tells all that a machine keeps: its listeners, and what each dispatch has still to do. -/
structure Sound (m : Machine α κ σ) : Prop where
  entries : m.listeners.entries = inForce m.log
  below : ∀ r ∈ made m.log, r.id < m.listeners.next
  right : ∀ (i : Nat) (h : Happening α), m.log[i]? = some h → h.Right (m.log.take i)
  known : ∀ d ∈ m.dispatches, ∃ event, m.log[d.number]? = some (.dispatched event d.args)
  distinct : (m.dispatches.map Dispatch.number).Nodup
  progress : ∀ (i : Nat) event args, m.log[i]? = some (.dispatched event args) →
    Progress m i args (targets (m.log.take i) event)

theorem Sound.on_eq (sound : m.Sound) (event : String) : m.listeners.on event = targets m.log event :=
  congrArg (List.filter _) sound.entries

theorem Sound.holds_iff (sound : m.Sound) (event : String) (id : Nat) :
    m.listeners.holds event id = true ↔ ∃ r ∈ inForce m.log, r.event = event ∧ r.id = id := by
  rw [holds, sound.entries, List.any_eq_true]
  simp [isAt]

theorem right_change (sound : m.Sound) (change : Change m m') :
    ∀ (i : Nat) (h : Happening α), m'.log[i]? = some h → h.Right (m'.log.take i) := by
  cases change with
  | quiet _ _ _ log => rw [log]; exact sound.right
  | added event listener _ _ log => rw [log]; exact right_snoc sound.right sound.below
  | removed event id _ _ log => rw [log]; exact right_snoc sound.right (sound.holds_iff event id)
  | counted event _ _ log =>
    rw [log]
    exact right_snoc sound.right (congrArg List.length (sound.on_eq event))
  | sized _ _ log => rw [log]; exact right_snoc sound.right (congrArg List.length sound.entries)
  | dispatched event args next _ _ log => rw [log]; exact right_snoc sound.right trivial
  | called d r pending outer innermost _ _ _ log =>
    have member : d ∈ m.dispatches := innermost ▸ List.mem_cons_self
    rw [log]
    exact right_snoc sound.right (sound.known d member)
  | returned d outer innermost _ _ _ log =>
    obtain ⟨event, begun⟩ := sound.known d (innermost ▸ List.mem_cons_self)
    rw [log]
    exact right_snoc sound.right ⟨event, d.args, begun⟩

/-! ### Dispatches against the log -/

theorem known_change (sound : m.Sound) (change : Change m m') :
    ∀ d ∈ m'.dispatches, ∃ event, m'.log[d.number]? = some (.dispatched event d.args) := by
  have kept (h : Happening α) : ∀ d ∈ m.dispatches,
      ∃ event, (m.log ++ [h])[d.number]? = some (.dispatched event d.args) := fun d member =>
    have ⟨event, begun⟩ := sound.known d member
    ⟨event, getElem?_log_snoc begun⟩
  cases change with
  | quiet _ _ dispatches log => rw [dispatches, log]; exact sound.known
  | added _ _ _ dispatches log | removed _ _ _ dispatches log | counted _ _ dispatches log
  | sized _ dispatches log => rw [dispatches, log]; exact kept _
  | dispatched event args next _ dispatches log =>
    rw [dispatches, log]
    refine List.forall_mem_cons.mpr ⟨⟨event, ?_⟩, kept _⟩
    exact List.getElem?_concat_length
  | called d r pending outer innermost _ _ dispatches log =>
    have before := innermost ▸ kept (.called d.number r d.args)
    rw [dispatches, log]
    exact List.forall_mem_cons.mpr (List.forall_mem_cons.mp before)
  | returned d outer innermost _ _ dispatches log =>
    have before := innermost ▸ kept (.returned d.number d.count)
    rw [dispatches, log]
    exact (List.forall_mem_cons.mp before).2

theorem Sound.number_lt (sound : m.Sound) {d : Dispatch α κ} (member : d ∈ m.dispatches) :
    d.number < m.log.length :=
  have ⟨_, begun⟩ := sound.known d member
  (List.getElem?_eq_some_iff.mp begun).1

theorem distinct_change (sound : m.Sound) (change : Change m m') :
    (m'.dispatches.map Dispatch.number).Nodup := by
  have distinct := sound.distinct
  cases change with
  | quiet _ _ dispatches _ | added _ _ _ dispatches _ | removed _ _ _ dispatches _
  | counted _ _ dispatches _ | sized _ dispatches _ => rwa [dispatches]
  | dispatched event args next _ dispatches _ =>
    rw [dispatches, List.map_cons]
    refine List.nodup_cons.mpr ⟨fun member => ?_, distinct⟩
    obtain ⟨d, member, same⟩ := List.mem_map.mp member
    exact Nat.lt_irrefl _ (same ▸ sound.number_lt member)
  | called d r pending outer innermost _ _ dispatches _ =>
    rw [dispatches]
    rwa [innermost] at distinct
  | returned d outer innermost _ _ dispatches _ =>
    rw [innermost] at distinct
    rw [dispatches]
    exact (List.nodup_cons.mp distinct).2

theorem Sound.nothing_ahead (sound : m.Sound) :
    calls m.log.length m.log = [] ∧ answers m.log.length m.log = [] := by
  have early {j : Nat} {x : Happening α} (begun : (m.log.take j)[m.log.length]? = some x) : False := by
    have inside := (List.getElem?_eq_some_iff.mp begun).1
    rw [List.length_take] at inside
    omega
  constructor
  · refine List.filterMap_eq_nil_iff.mpr fun h member => ?_
    obtain ⟨j, found⟩ := List.mem_iff_getElem?.mp member
    cases h with
    | called i r args =>
      refine if_neg fun same => ?_
      obtain ⟨event, begun⟩ := sound.right j _ found
      exact early (same ▸ begun)
    | _ => rfl
  · refine List.filterMap_eq_nil_iff.mpr fun h member => ?_
    obtain ⟨j, found⟩ := List.mem_iff_getElem?.mp member
    cases h with
    | returned i answer =>
      refine if_neg fun same => ?_
      obtain ⟨event, args, begun⟩ := sound.right j _ found
      exact early (same ▸ begun)
    | _ => rfl

theorem Progress.keep {args : List Json} {targets : List (Registration α)}
    (progress : Progress m i args targets)
    (stays : ∀ d ∈ m.dispatches, d.number = i → d ∈ m'.dispatches)
    (closes : (∀ d ∈ m.dispatches, d.number ≠ i) → ∀ d ∈ m'.dispatches, d.number ≠ i)
    (sameCalls : calls i m'.log = calls i m.log) (sameAnswers : answers i m'.log = answers i m.log) :
    Progress m' i args targets := by
  cases progress with
  | waiting d called member number given parts count calls answers =>
    exact .waiting d called (stays d member number) number given parts count
      (sameCalls.trans calls) (sameAnswers.trans answers)
  | ended closed calls answers =>
    exact .ended (closes closed) (sameCalls.trans calls) (sameAnswers.trans answers)

theorem progress_plain (sound : m.Sound) (plain : h.Plain) (dispatches : m'.dispatches = m.dispatches)
    (log : m'.log = m.log ++ [h]) (i : Nat) (event : String) (args : List Json)
    (begun : m'.log[i]? = some (.dispatched event args)) :
    Progress m' i args (targets (m'.log.take i) event) := by
  rw [log] at begun ⊢
  rcases getElem?_snoc begun with ⟨old, same⟩ | ⟨_, new, _⟩
  · rw [same]
    refine (sound.progress i event args old).keep ?_ ?_ ?_ ?_
    · exact fun d member _ => dispatches ▸ member
    · exact fun closed => dispatches ▸ closed
    · rw [log, calls_append, plain.callFor?]
      exact List.append_nil _
    · rw [log, answers_append, plain.answerOf?]
      exact List.append_nil _
  · exact absurd new (plain.ne_dispatched event args)

/-- The innermost dispatch has called the targets that are not pending, and not answered. -/
theorem Sound.progress_innermost (sound : m.Sound) {d : Dispatch α κ} {outer : List (Dispatch α κ)}
    (innermost : m.dispatches = d :: outer) {event : String} {args : List Json}
    (begun : m.log[d.number]? = some (.dispatched event args)) :
    d.args = args ∧ d.count = (targets (m.log.take d.number) event).length ∧
      ∃ called, targets (m.log.take d.number) event = called ++ d.pending ∧
        calls d.number m.log = called.map (fun r => (r, args)) ∧ answers d.number m.log = [] := by
  have member : d ∈ m.dispatches := innermost ▸ List.mem_cons_self
  cases sound.progress d.number event args begun with
  | ended closed _ _ => exact absurd rfl (closed d member)
  | waiting d' called member' number given parts count calls answers =>
    cases List.inj_on_of_nodup_map sound.distinct member' member number
    exact ⟨given, count, called, parts, calls, answers⟩

theorem Progress.aside {d : Dispatch α κ} {outer : List (Dispatch α κ)} {args : List Json}
    {targets : List (Registration α)} (progress : Progress m i args targets)
    (front : List (Dispatch α κ)) (innermost : m.dispatches = d :: outer) (other : d.number ≠ i)
    (dispatches : m'.dispatches = front ++ outer) (same : ∀ d' ∈ front, d'.number = d.number)
    (sameCalls : calls i m'.log = calls i m.log) (sameAnswers : answers i m'.log = answers i m.log) :
    Progress m' i args targets := by
  refine progress.keep (fun d' member number => ?_) (fun closed => ?_) sameCalls sameAnswers
  · rw [innermost] at member
    rcases List.mem_cons.mp member with rfl | behind
    · exact absurd number other
    · exact dispatches ▸ List.mem_append_right _ behind
  · rw [dispatches]
    intro d' member
    rcases List.mem_append.mp member with this | behind
    · exact same d' this ▸ other
    · exact closed d' (innermost ▸ List.mem_cons_of_mem _ behind)

theorem progress_dispatched (sound : m.Sound) {event : String} {args : List Json} {next : Nat → κ}
    (dispatches : m'.dispatches =
      ⟨m.log.length, args, m.listeners.on event, m.listeners.count event, next⟩ :: m.dispatches)
    (log : m'.log = m.log ++ [.dispatched event args]) (i : Nat) (event' : String)
    (args' : List Json) (begun : m'.log[i]? = some (.dispatched event' args')) :
    Progress m' i args' (targets (m'.log.take i) event') := by
  have quiet (j : Nat) : calls j m'.log = calls j m.log ∧ answers j m'.log = answers j m.log := by
    rw [log, calls_append, answers_append]
    exact ⟨List.append_nil _, List.append_nil _⟩
  have begun' := begun
  rw [log] at begun'
  rcases getElem?_snoc begun' with ⟨old, same⟩ | ⟨rfl, new, whole⟩
  · have before : i < m.log.length := (List.getElem?_eq_some_iff.mp old).1
    rw [log, same]
    refine (sound.progress i event' args' old).keep ?_ ?_ (quiet i).1 (quiet i).2
    · exact fun d member _ => dispatches ▸ List.mem_cons_of_mem _ member
    · exact fun closed => dispatches ▸ List.forall_mem_cons.mpr ⟨Nat.ne_of_gt before, closed⟩
  · cases new
    have these : targets (m'.log.take m.log.length) event = m.listeners.on event := by
      rw [log, whole, sound.on_eq]
    obtain ⟨noCalls, noAnswers⟩ := sound.nothing_ahead
    rw [these]
    exact .waiting _ [] (dispatches ▸ List.mem_cons_self) rfl rfl rfl rfl
      ((quiet _).1.trans noCalls) ((quiet _).2.trans noAnswers)

theorem progress_called (sound : m.Sound) {d : Dispatch α κ} {r : Registration α}
    {pending : List (Registration α)} {outer : List (Dispatch α κ)}
    (innermost : m.dispatches = d :: outer) (first : d.pending = r :: pending)
    (dispatches : m'.dispatches = { d with pending } :: outer)
    (log : m'.log = m.log ++ [.called d.number r d.args]) (i : Nat) (event : String)
    (args : List Json) (begun : m'.log[i]? = some (.dispatched event args)) :
    Progress m' i args (targets (m'.log.take i) event) := by
  have sameAnswers : answers i m'.log = answers i m.log := by
    rw [log, answers_append]
    exact List.append_nil _
  have newCalls : calls i m'.log = calls i m.log ++ if d.number = i then [(r, d.args)] else [] := by
    rw [log, calls_append, Happening.callFor?]
    split <;> rfl
  rw [log] at begun
  rcases getElem?_snoc begun with ⟨old, same⟩ | ⟨_, new, _⟩
  · rw [log, same]
    by_cases here : d.number = i
    · subst here
      obtain ⟨given, count, called, parts, calls, answers⟩ := sound.progress_innermost innermost old
      refine .waiting { d with pending } (called ++ [r]) (dispatches ▸ List.mem_cons_self) rfl given
        ?_ count ?_ (sameAnswers.trans answers)
      · rw [parts, first, List.append_assoc, List.singleton_append]
      · rw [newCalls, calls, if_pos rfl, given, List.map_append]
        rfl
    · rw [if_neg here, List.append_nil] at newCalls
      refine (sound.progress i event args old).aside [{ d with pending }] innermost here dispatches
        (fun d' member => ?_) newCalls sameAnswers
      rw [List.mem_singleton.mp member]
  · cases new

theorem progress_returned (sound : m.Sound) {d : Dispatch α κ} {outer : List (Dispatch α κ)}
    (innermost : m.dispatches = d :: outer) (done : d.pending = [])
    (dispatches : m'.dispatches = outer) (log : m'.log = m.log ++ [.returned d.number d.count])
    (i : Nat) (event : String) (args : List Json)
    (begun : m'.log[i]? = some (.dispatched event args)) :
    Progress m' i args (targets (m'.log.take i) event) := by
  have sameCalls : calls i m'.log = calls i m.log := by
    rw [log, calls_append]
    exact List.append_nil _
  have newAnswers : answers i m'.log = answers i m.log ++ if d.number = i then [d.count] else [] := by
    rw [log, answers_append, Happening.answerOf?]
    split <;> rfl
  rw [log] at begun
  rcases getElem?_snoc begun with ⟨old, same⟩ | ⟨_, new, _⟩
  · rw [log, same]
    by_cases here : d.number = i
    · subst here
      obtain ⟨given, count, called, parts, calls, answers⟩ := sound.progress_innermost innermost old
      have distinct := innermost ▸ sound.distinct
      refine .ended (fun d' member same => ?_) ?_ ?_
      · exact (List.nodup_cons.mp distinct).1 (List.mem_map.mpr ⟨d', dispatches ▸ member, same⟩)
      · rw [sameCalls, calls, parts, done, List.append_nil]
      · rw [newAnswers, answers, if_pos rfl, count]
        rfl
    · rw [if_neg here, List.append_nil] at newAnswers
      exact (sound.progress i event args old).aside [] innermost here dispatches nofun sameCalls
        newAnswers
  · cases new

theorem Sound.change (sound : m.Sound) (change : Change m m') : m'.Sound where
  entries := entries_change change sound.entries
  below := below_change change sound.below
  right := right_change sound change
  known := known_change sound change
  distinct := distinct_change sound change
  progress := by
    cases change with
    | quiet _ _ dispatches log =>
      intro i event args begun
      rw [log] at begun ⊢
      refine (sound.progress i event args begun).keep ?_ ?_ (log ▸ rfl) (log ▸ rfl)
      · exact fun d member _ => dispatches ▸ member
      · exact fun closed => dispatches ▸ closed
    | added _ _ _ dispatches log | removed _ _ _ dispatches log | counted _ _ dispatches log
    | sized _ dispatches log =>
      exact progress_plain sound ⟨fun _ => rfl, fun _ => rfl, fun _ _ same => by cases same⟩
        dispatches log
    | dispatched _ _ _ _ dispatches log => exact progress_dispatched sound dispatches log
    | called _ _ _ _ innermost first _ dispatches log =>
      exact progress_called sound innermost first dispatches log
    | returned _ _ innermost done _ dispatches log =>
      exact progress_returned sound innermost done dispatches log

/-! ### Runs -/

/-- A program before its first step, with the registry that it takes over; the log tells of it. -/
def resume (ls : Listeners α) (memory : σ) (point : κ) : Machine α κ σ :=
  { listeners := ls, memory, point := some point, log := ls.entries.map .added }

/-- A program before its first step. Its registry is empty; some numbers may have been given. -/
def start (first : Nat) (memory : σ) (point : κ) : Machine α κ σ :=
  resume { next := first } memory point

theorem sound_resume {ls : Listeners α} (ordered : ls.Ordered) (memory : σ) (point : κ) :
    (resume ls memory point : Machine α κ σ).Sound where
  entries := (inForce_added ls.entries).symm
  below r member := ordered.given r (made_added ls.entries ▸ member)
  right i h found := by
    obtain ⟨r, here, rfl⟩ := Option.map_eq_some_iff.mp (List.getElem?_map .. ▸ found)
    intro r' earlier
    have earlier : r' ∈ ls.entries.take i := by
      rwa [resume, ← List.map_take, made_added] at earlier
    obtain ⟨inside, rfl⟩ := List.getElem?_eq_some_iff.mp here
    obtain ⟨j, before, rfl⟩ := List.mem_take_iff_getElem.mp earlier
    exact List.pairwise_iff_getElem.mp ordered.ascending j i _ inside (by omega)
  known := nofun
  distinct := List.nodup_nil
  progress i event args begun := by
    obtain ⟨_, _, other⟩ := Option.map_eq_some_iff.mp (List.getElem?_map .. ▸ begun)
    cases other

theorem sound_start (first : Nat) (memory : σ) (point : κ) :
    (start first memory point : Machine α κ σ).Sound :=
  sound_resume ⟨.nil, by simp⟩ memory point

theorem run_of_step (stepped : m.step p = some m') (n : Nat) : m.run p (n + 1) = m'.run p n := by
  rw [run, stepped]

theorem run_of_end (ended : m.step p = none) (n : Nat) : m.run p n = m := by
  cases n with
  | zero => rfl
  | succ n => rw [run, ended]

theorem run_add (n l : Nat) : m.run p (n + l) = (m.run p n).run p l := by
  induction n generalizing m with
  | zero => rw [Nat.zero_add, run]
  | succ n ih =>
    cases stepped : m.step p with
    | none => rw [run_of_end stepped, run_of_end stepped, run_of_end stepped]
    | some m' => rw [Nat.succ_add, run_of_step stepped, run_of_step stepped, ih]

theorem Sound.run (sound : m.Sound) (n : Nat) : (m.run p n).Sound := by
  induction n generalizing m with
  | zero => exact sound
  | succ n ih =>
    cases stepped : m.step p with
    | none => rwa [run_of_end stepped]
    | some m' =>
      rw [run_of_step stepped]
      exact ih (sound.change (change_of_step stepped))

theorem prefix_change (change : Change m m') : m.log <+: m'.log := by
  cases change with
  | quiet _ _ _ log => exact log ▸ List.prefix_rfl
  | added _ _ _ _ log | removed _ _ _ _ log | counted _ _ _ log | sized _ _ log
  | dispatched _ _ _ _ _ log | called _ _ _ _ _ _ _ _ log | returned _ _ _ _ _ _ log =>
    rw [log]
    exact List.prefix_append _ _

theorem log_run (p : Program α κ σ) (m : Machine α κ σ) (n : Nat) : m.log <+: (m.run p n).log := by
  induction n generalizing m with
  | zero => exact List.prefix_rfl
  | succ n ih =>
    cases stepped : m.step p with
    | none => exact ⟨[], by rw [run_of_end stepped, List.append_nil]⟩
    | some m' =>
      rw [run_of_step stepped]
      exact (prefix_change (change_of_step stepped)).trans (ih m')

theorem step_point {k : κ} (at_ : m.point = some k) :
    m.step p = some ({ m with memory := (p.move k m.memory).2 }.perform (p.move k m.memory).1) := by
  obtain ⟨listeners, memory, point, dispatches, log⟩ := m
  cases at_
  rfl

theorem step_between {d : Dispatch α κ} {outer : List (Dispatch α κ)} (between : m.point = none)
    (innermost : m.dispatches = d :: outer) : m.step p = some (m.proceed p d outer) := by
  rw [step, between, innermost]

/-- The listener that has just been called never comes back to the dispatch that called it. -/
def Hangs (p : Program α κ σ) (m : Machine α κ σ) : Prop :=
  ∀ n, ¬ ((m.run p n).point = none ∧ (m.run p n).dispatches = m.dispatches)

/-- A dispatch between two calls comes to its end, unless a listener hangs. -/
theorem pending_return {d : Dispatch α κ} {outer : List (Dispatch α κ)}
    {pending : List (Registration α)} (between : m.point = none)
    (innermost : m.dispatches = d :: outer) (todo : d.pending = pending) :
    (∃ n, (m.run p n).point = some (d.next d.count) ∧ (m.run p n).dispatches = outer) ∨
      ∃ n, ∃ r ∈ pending, (m.run p n).point = some (p.entry r d.args) ∧ (m.run p n).Hangs p := by
  induction pending generalizing m d with
  | nil =>
    refine .inl ⟨1, ?_⟩
    rw [run_of_step (step_between between innermost), run, proceed, todo]
    exact ⟨rfl, rfl⟩
  | cons r pending ih =>
    have called : (m.run p 1).point = some (p.entry r d.args) ∧
        (m.run p 1).dispatches = { d with pending } :: outer := by
      rw [run_of_step (step_between between innermost), run, proceed, todo]
      exact ⟨rfl, rfl⟩
    by_cases hangs : (m.run p 1).Hangs p
    · exact .inr ⟨1, r, List.mem_cons_self, called.1, hangs⟩
    · -- the call is over some steps later, and the rest of the listeners is left
      obtain ⟨n, back⟩ := not_forall.mp hangs
      obtain ⟨between', innermost'⟩ := not_not.mp back
      rcases ih between' (innermost'.trans called.2) rfl with ⟨l, ends⟩ | ⟨l, r', later, call, hangs⟩
      · rw [← run_add, ← run_add] at ends
        exact .inl ⟨_, ends⟩
      · rw [← run_add, ← run_add] at call hangs
        exact .inr ⟨_, r', List.mem_cons_of_mem _ later, call, hangs⟩

/-- A dispatch answers how many listeners were registered when it was started, unless one of them
hangs. -/
theorem dispatch_returns {k : κ} {event : String} {args : List Json} {next : Nat → κ}
    (at_ : m.point = some k) (move : (p.move k m.memory).1 = .dispatch event args next) :
    (∃ n, (m.run p n).point = some (next (m.listeners.count event)) ∧
        (m.run p n).dispatches = m.dispatches) ∨
      ∃ n, ∃ r ∈ m.listeners.on event,
        (m.run p n).point = some (p.entry r args) ∧ (m.run p n).Hangs p := by
  let begun := { m with memory := (p.move k m.memory).2 }.perform (.dispatch event args next)
  have stepped : m.step p = some begun := by
    rw [step_point at_, move]
  have after : begun.point = none := rfl
  rcases pending_return (p := p) after rfl rfl with ⟨n, ends⟩ | ⟨n, hangs⟩
  · exact .inl ⟨n + 1, run_of_step stepped n ▸ ends⟩
  · exact .inr ⟨n + 1, run_of_step stepped n ▸ hangs⟩

/-! ### What holds of every run -/

/-- All that a registry answers and all that dispatches do is as the log says. -/
structure Faithful (m : Machine α κ σ) : Prop where
  /-- The listeners are those that have been added and not removed since. -/
  listeners : m.listeners.entries = inForce m.log
  /-- No number is given twice. -/
  numbers : (made m.log).Pairwise fun r r' => r.id < r'.id
  right : ∀ (i : Nat) (h : Happening α), m.log[i]? = some h → h.Right (m.log.take i)
  /-- A dispatch has called the first of its targets, and all of them when it has answered. -/
  dispatches : ∀ (i : Nat) event args, m.log[i]? = some (.dispatched event args) →
    ∃ called pending, targets (m.log.take i) event = called ++ pending ∧
      (called ++ pending).Pairwise (fun r r' => r.id < r'.id) ∧
      calls i m.log = called.map (fun r => (r, args)) ∧
      (answers i m.log = [] ∨ pending = [] ∧ answers i m.log = [called.length])

theorem Sound.faithful (sound : m.Sound) : m.Faithful where
  listeners := sound.entries
  numbers := made_pairwise sound.right
  right := sound.right
  dispatches i event args begun := by
    have earlier := (inForce_sublist (m.log.take i)).trans ((List.take_sublist i m.log).filterMap _)
    have ordered : (targets (m.log.take i) event).Pairwise fun r r' => r.id < r'.id :=
      (made_pairwise sound.right).sublist (List.filter_sublist.trans earlier)
    cases sound.progress i event args begun with
    | waiting d called _ _ _ parts _ calls answers =>
      exact ⟨called, d.pending, parts, parts ▸ ordered, calls, .inl answers⟩
    | ended _ calls answers =>
      exact ⟨_, [], (List.append_nil _).symm, (List.append_nil _).symm ▸ ordered, calls,
        .inr ⟨rfl, answers⟩⟩

/-- What a program's dispatch calls that takes over a registry, however far it has come: the listeners
that are registered for the event, from the first on, and all of them when it answers. -/
theorem resume_dispatches {ls : Listeners α} (ordered : ls.Ordered) {memory : σ} {k : κ} {event : String}
    {args : List Json} {next : Nat → κ} (move : (p.move k memory).1 = .dispatch event args next)
    (n : Nat) :
    let log := ((resume ls memory k).run p (n + 1)).log
    ∃ called pending, ls.on event = called ++ pending ∧
      calls ls.entries.length log = called.map (fun r => (r, args)) ∧
      (answers ls.entries.length log = [] ∨
        pending = [] ∧ answers ls.entries.length log = [called.length]) := by
  intro log
  let m : Machine α κ σ := resume ls memory k
  let begun := { m with memory := (p.move k memory).2 }.perform (.dispatch event args next)
  have stepped : m.step p = some begun := by
    rw [step_point rfl]
    exact congrArg (fun move => some (Machine.perform _ move)) move
  have sound : begun.Sound := (sound_resume ordered memory k).change (change_of_step stepped)
  obtain ⟨later, grown⟩ := log_run p begun n
  have same : log = ls.entries.map .added ++ .dispatched event args :: later := by
    rw [show log = (begun.run p n).log from congrArg Machine.log (run_of_step stepped n), ← grown]
    exact List.append_assoc ..
  have place : (ls.entries.map (Happening.added (α := α))).length = ls.entries.length :=
    List.length_map ..
  obtain ⟨called, pending, parts, -, called_, answered⟩ :=
    (sound.run n).faithful.dispatches ls.entries.length event args (by
      rw [← run_of_step stepped n]
      show log[_]? = _
      rw [same, ← place, List.getElem?_append_right (Nat.le_refl _), Nat.sub_self]
      rfl)
  rw [← run_of_step stepped n] at parts called_ answered
  refine ⟨called, pending, ?_, called_, answered⟩
  rw [← parts]
  show _ = targets (log.take _) event
  rw [same, ← place, List.take_left, targets, inForce_added]
  rfl

theorem Sound.answers_of_end (sound : m.Sound) (ended : m.step p = none) {event : String}
    {args : List Json} (begun : m.log[i]? = some (.dispatched event args)) :
    answers i m.log = [(targets (m.log.take i) event).length] := by
  have noDispatch : m.dispatches = [] := by
    unfold step at ended
    split at ended
    · cases ended
    · cases ended
    · assumption
  cases sound.progress i event args begun with
  | waiting d _ member => cases noDispatch ▸ member
  | ended _ _ answers => exact answers

/-- Where a step leads, and what it puts down; the dispatches stay. -/
structure Reaches (m m' : Machine α κ σ) (point : Option κ) (happenings : List (Happening α)) : Prop where
  point : m'.point = point
  log : m'.log = m.log ++ happenings
  dispatches : m'.dispatches = m.dispatches

/-- What a move does. The program goes on with the answer that is put down. -/
inductive Performs (m m' : Machine α κ σ) : Move α κ → Prop
  | finish (reaches : m.Reaches m' none []) : Performs m m' .finish
  | idle {next : κ} (reaches : m.Reaches m' (some next) []) : Performs m m' (.idle next)
  | add {event : String} {listener : α} {next : Nat → κ} {id : Nat}
      (reaches : m.Reaches m' (some (next id)) [.added ⟨id, event, listener⟩]) :
      Performs m m' (.add event listener next)
  | remove {event : String} {id : Nat} {next : Bool → κ} {answer : Bool}
      (reaches : m.Reaches m' (some (next answer)) [.removed event id answer]) :
      Performs m m' (.remove event id next)
  | count {event : String} {next : Nat → κ} {answer : Nat}
      (reaches : m.Reaches m' (some (next answer)) [.counted event answer]) :
      Performs m m' (.count event next)
  | size {next : Nat → κ} {answer : Nat}
      (reaches : m.Reaches m' (some (next answer)) [.sized answer]) : Performs m m' (.size next)
  | addElsewhere {next : Nat → κ} {id : Nat} (reaches : m.Reaches m' (some (next id)) []) :
      Performs m m' (.addElsewhere next)
  | dispatch {event : String} {args : List Json} {next : Nat → κ} {d : Dispatch α κ}
      (point : m'.point = none) (log : m'.log = m.log ++ [.dispatched event args])
      (dispatches : m'.dispatches = d :: m.dispatches) (number : d.number = m.log.length)
      (given : d.args = args) (back : d.next = next) : Performs m m' (.dispatch event args next)

/-- What a step does. At a point of the program it is the move that stands there; between two calls, the
innermost dispatch runs a listener with its arguments, or goes back to where it was started. -/
inductive Does (p : Program α κ σ) (m m' : Machine α κ σ) : Prop
  | moves {k : κ} (at_ : m.point = some k) (memory : m'.memory = (p.move k m.memory).2)
      (performs : m.Performs m' (p.move k m.memory).1)
  | calls {d d' : Dispatch α κ} {outer : List (Dispatch α κ)} {r : Registration α}
      (between : m.point = none) (innermost : m.dispatches = d :: outer) (memory : m'.memory = m.memory)
      (point : m'.point = some (p.entry r d.args)) (log : m'.log = m.log ++ [.called d.number r d.args])
      (dispatches : m'.dispatches = d' :: outer) (number : d'.number = d.number)
      (given : d'.args = d.args) (back : d'.next = d.next)
  | returns {d : Dispatch α κ} {outer : List (Dispatch α κ)} {answer : Nat}
      (between : m.point = none) (innermost : m.dispatches = d :: outer) (memory : m'.memory = m.memory)
      (point : m'.point = some (d.next answer)) (log : m'.log = m.log ++ [.returned d.number answer])
      (dispatches : m'.dispatches = outer)

theorem performs_of_perform (m : Machine α κ σ) (memory : σ) (move : Move α κ) :
    m.Performs ({ m with memory }.perform move) move := by
  cases move with
  | finish => exact .finish ⟨rfl, (List.append_nil _).symm, rfl⟩
  | idle next => exact .idle ⟨rfl, (List.append_nil _).symm, rfl⟩
  | add event listener next => exact .add ⟨rfl, rfl, rfl⟩
  | remove event id next => exact .remove ⟨rfl, rfl, rfl⟩
  | dispatch event args next => exact .dispatch rfl rfl rfl rfl rfl rfl
  | count event next => exact .count ⟨rfl, rfl, rfl⟩
  | size next => exact .size ⟨rfl, rfl, rfl⟩
  | addElsewhere next => exact .addElsewhere ⟨rfl, (List.append_nil _).symm, rfl⟩

theorem memory_perform (m : Machine α κ σ) (move : Move α κ) : (m.perform move).memory = m.memory := by
  cases move <;> rfl

theorem does_of_step (stepped : m.step p = some m') : Does p m m' := by
  unfold step at stepped
  split at stepped
  · rename_i at_
    cases stepped
    exact .moves at_ (memory_perform _ _) (performs_of_perform _ _ _)
  · rename_i between innermost
    cases stepped
    unfold proceed
    split
    · exact .returns between innermost rfl rfl rfl rfl
    · exact .calls between innermost rfl rfl rfl rfl rfl rfl rfl
  · cases stepped

theorem step_eq_none : m.step p = none ↔ m.point = none ∧ m.dispatches = [] := by
  unfold step
  split <;> simp_all

/-- Whatever a program with its listeners does to a registry that is empty at first, at any moment of
the run the log tells the truth: the registry holds what has been added and not removed since, it
answers accordingly, and a dispatch calls those that were registered for its event when it was
started, each once, in order and with its arguments. Every step does what its move says and puts it
down, and the program goes on with the answer that is put down. A dispatch answers how many listeners
it has called unless one of them does not come back, and none is left over at the end of the program. -/
theorem registry_faithful (p : Program α κ σ) (first : Nat) (memory : σ) (point : κ) (n : Nat) :
    let m := (start first memory point : Machine α κ σ).run p n
    m.Faithful ∧
      (∀ m', m.step p = some m' → Does p m m') ∧
      (m.step p = none ↔ m.point = none ∧ m.dispatches = []) ∧
      (∀ k event args next, m.point = some k → (p.move k m.memory).1 = .dispatch event args next →
        (∃ l, (m.run p l).point = some (next (targets m.log event).length) ∧
            (m.run p l).dispatches = m.dispatches) ∨
          ∃ l, ∃ r ∈ targets m.log event,
            (m.run p l).point = some (p.entry r args) ∧ (m.run p l).Hangs p) ∧
      (m.step p = none → ∀ (i : Nat) event args, m.log[i]? = some (.dispatched event args) →
        answers i m.log = [(targets (m.log.take i) event).length]) := by
  intro m
  have sound : m.Sound := (sound_start first memory point).run n
  refine ⟨sound.faithful, fun m' => does_of_step, step_eq_none,
    fun k event args next at_ move => ?_, fun ended i event args => sound.answers_of_end ended⟩
  rw [← sound.on_eq event]
  exact dispatch_returns at_ move

/-- Two listeners for one event. The first leaves, registers another one and dispatches the event
again; the others do nothing. -/
def relay : Program Nat Nat Unit where
  entry r _ := r.listener
  move k _ :=
    (match k with
      | 0 => .add "news" 10 fun _ => 1
      | 1 => .add "news" 20 fun _ => 2
      | 2 => .dispatch "news" [.bool true] fun _ => 3
      | 10 => .remove "news" 0 fun _ => 11
      | 11 => .add "news" 20 fun _ => 12
      | 12 => .dispatch "news" [] fun _ => 13
      | _ => .finish, ())

/-- The inner dispatch calls the listener that is new and not the one that has left; the outer one the
other way round. -/
theorem registry_faithful_relay :
    let m := (start 0 () 0 : Machine Nat Nat Unit).run relay 20
    m.step relay = none ∧ m.listeners.entries = [⟨1, "news", 20⟩, ⟨2, "news", 20⟩] ∧
      calls 2 m.log = [(⟨0, "news", 10⟩, [.bool true]), (⟨1, "news", 20⟩, [.bool true])] ∧
      calls 6 m.log = [(⟨1, "news", 20⟩, []), (⟨2, "news", 20⟩, [])] ∧
      answers 2 m.log = [2] ∧ answers 6 m.log = [2] := by
  intro m
  obtain ⟨faithful, -, over_, -, answered⟩ := registry_faithful relay 0 () 0 20
  have ended : m.step relay = none := over_.mpr ⟨rfl, rfl⟩
  -- a dispatch that has answered has called all its targets
  have all (i : Nat) (event : String) {args : List Json}
      (begun : m.log[i]? = some (.dispatched event args)) :
      calls i m.log = (targets (m.log.take i) event).map fun r => (r, args) := by
    obtain ⟨called, pending, parts, -, calls, answer⟩ := faithful.dispatches i event args begun
    obtain none_ | ⟨rfl, -⟩ := answer
    · cases none_.symm.trans (answered ended i event args begun)
    · rw [parts, List.append_nil, calls]
  exact ⟨ended, faithful.listeners, all 2 "news" rfl, all 6 "news" rfl,
    answered ended 2 "news" _ rfl, answered ended 6 "news" _ rfl⟩

end Machine

end LiveSession
