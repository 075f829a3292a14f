import LiveSession.Proofs.Client.Acts
import Mathlib.Data.List.Perm.Basic

/-!
# Steps of a tab

An event starts or carries on one flight, or it is about the channels alone. Whatever it is, the
client goes through some acts with what that flight holds, and all else that is held stays as it is.
Only `pass` is no act: time passes, and nothing else changes.
-/

namespace LiveSession

namespace Flight

@[simp] theorem held_ofProgress (now : Nat) (p : Progress) : (ofProgress now p).held = p.held := by
  cases p <;> rfl

@[simp] theorem held_ofScript (now : Nat) (p : ScriptProgress) :
    (ofScript now p).held = p.held := by
  cases p <;> rfl

end Flight

namespace Tab

variable {ω : Type}

def heldBy (t : Tab ω) (flight : Nat) : List Held :=
  (t.flights[flight]?).elim [] Flight.held

/-- The number of the flight that an event starts or carries on. -/
def subject (t : Tab ω) : TabEvent ω → Option Nat
  | .dispatch _ | .run _ => some t.flights.length
  | .poll flight => some flight
  | _ => none

/-- What an event takes in hand: what its flight holds, or the listener of somebody else. -/
def moved (t : Tab ω) : TabEvent ω → List Held
  | .poll flight => t.heldBy flight
  | .unlisten guest => (t.guests[guest]?).elim [] fun s => [.listeners s]
  | _ => []

theorem heldBy_length (t : Tab ω) : t.heldBy t.flights.length = [] := by
  unfold heldBy
  rw [List.getElem?_eq_none (Nat.le_refl _)]
  rfl

theorem heldBy_of_flight {t : Tab ω} {flight : Nat} {f : Flight}
    (found : t.flights[flight]? = some f) : t.heldBy flight = f.held := by
  unfold heldBy
  rw [found]
  rfl

theorem mem_heldBy {t : Tab ω} {flight : Nat} {h : Held} :
    h ∈ t.heldBy flight ↔ ∃ f, t.flights[flight]? = some f ∧ h ∈ f.held := by
  unfold heldBy
  cases t.flights[flight]? <;> simp

theorem mem_moved {t : Tab ω} {event : TabEvent ω} {h : Held} (member : h ∈ t.moved event) :
    (∃ flight f, event = .poll flight ∧ t.flights[flight]? = some f ∧ h ∈ f.held) ∨
      ∃ guest s, event = .unlisten guest ∧ t.guests[guest]? = some s ∧ h = .listeners s := by
  cases event with
  | poll flight =>
    obtain ⟨f, found, holds⟩ := mem_heldBy.mp member
    exact .inl ⟨flight, f, rfl, found, holds⟩
  | unlisten guest =>
    simp only [moved] at member
    cases found : t.guests[guest]? with
    | none =>
      rw [found] at member
      cases member
    | some s =>
      rw [found] at member
      exact .inr ⟨guest, s, rfl, found, List.mem_singleton.mp member⟩
  | _ => cases member

theorem mem_held_of_heldBy {t : Tab ω} {flight : Nat} {h : Held} (member : h ∈ t.heldBy flight) :
    h ∈ t.held := by
  obtain ⟨f, found, holds⟩ := mem_heldBy.mp member
  exact List.mem_append_left _
    (List.mem_flatMap.mpr ⟨f, List.mem_of_getElem? found, holds⟩)

/-- What is held on the tab is held for a flight, or it is the listener of somebody else. -/
theorem mem_held {t : Tab ω} {h : Held} :
    h ∈ t.held ↔ (∃ flight, h ∈ t.heldBy flight) ∨ ∃ s ∈ t.guests, h = .listeners s := by
  constructor
  · intro member
    rcases List.mem_append.mp member with flying | guest
    · obtain ⟨f, flown, holds⟩ := List.mem_flatMap.mp flying
      obtain ⟨flight, found⟩ := List.mem_iff_getElem?.mp flown
      exact .inl ⟨flight, heldBy_of_flight found ▸ holds⟩
    · obtain ⟨s, present, rfl⟩ := List.mem_map.mp guest
      exact .inr ⟨s, present, rfl⟩
  · rintro (⟨flight, holds⟩ | ⟨s, present, rfl⟩)
    · exact mem_held_of_heldBy holds
    · exact List.mem_append_right _ (List.mem_map.mpr ⟨s, present, rfl⟩)

theorem exists_others (t : Tab ω) (flight : Nat) :
    ∃ others, t.held.Perm (t.heldBy flight ++ others) := by
  unfold heldBy
  cases found : t.flights[flight]? with
  | none => exact ⟨t.held, .refl _⟩
  | some f =>
    obtain ⟨below, rfl⟩ := List.getElem?_eq_some_iff.mp found
    refine ⟨(t.flights.eraseIdx flight).flatMap Flight.held ++ t.guests.map .listeners, ?_⟩
    rw [Option.elim_some, ← List.append_assoc]
    exact ((List.getElem_cons_eraseIdx_perm below).symm.flatMap_right _).append_right _

theorem held_append (c : Client ω) (flights : List Flight) (f : Flight)
    (guests : List Subscription) :
    (Tab.mk c (flights ++ [f]) guests).held.Perm (f.held ++ (Tab.mk c flights guests).held) := by
  unfold held
  rw [List.flatMap_append, List.flatMap_singleton, List.append_assoc]
  exact List.perm_append_comm_assoc _ _ _

theorem flights_listen (t : Tab ω) (channel : ChannelId) (e : String) :
    (t.listen channel e).flights = t.flights := by
  unfold listen
  split <;> rfl

theorem flights_unlisten (t : Tab ω) (guest : Nat) : (t.unlisten guest).flights = t.flights := by
  unfold unlisten
  split <;> rfl

section Steps

variable [Transports ω] {t : Tab ω} {event : TabEvent ω} {flight : Nat}

theorem heldBy_launch (t : Tab ω) (r : Client ω × Progress) :
    (t.launch r).heldBy t.flights.length = r.2.held := by
  rw [heldBy_of_flight (f := .ofProgress r.1.now r.2), Flight.held_ofProgress]
  exact List.getElem?_concat_length

theorem heldBy_launchScript (t : Tab ω) (r : Client ω × ScriptProgress) :
    (t.launchScript r).heldBy t.flights.length = r.2.held := by
  rw [heldBy_of_flight (f := .ofScript r.1.now r.2), Flight.held_ofScript]
  exact List.getElem?_concat_length

theorem held_launch (t : Tab ω) (r : Client ω × Progress) :
    (t.launch r).held.Perm (r.2.held ++ t.held) := by
  rw [← Flight.held_ofProgress r.1.now]
  exact held_append _ _ _ _

theorem held_launchScript (t : Tab ω) (r : Client ω × ScriptProgress) :
    (t.launchScript r).held.Perm (r.2.held ++ t.held) := by
  rw [← Flight.held_ofScript r.1.now]
  exact held_append _ _ _ _

theorem poll_action {job : Job} (found : t.flights[flight]? = some (.action job)) :
    t.poll flight =
      { t with
        client := (t.client.poll job).1
        flights := t.flights.set flight
          (.ofProgress (t.client.poll job).1.now (t.client.poll job).2) } := by
  unfold poll
  rw [found]

theorem poll_script {run : ScriptRun} (found : t.flights[flight]? = some (.script run)) :
    t.poll flight =
      { t with
        client := (t.client.pollScript run).1
        flights := t.flights.set flight
          (.ofScript (t.client.pollScript run).1.now (t.client.pollScript run).2) } := by
  unfold poll
  rw [found]

/-- A poll carries on what is in flight, or there is nothing to carry on. -/
theorem poll_cases (t : Tab ω) (flight : Nat) :
    t.poll flight = t ∨
      ∃ c f, flight < t.flights.length ∧ Acts t.client (t.heldBy flight) c f.held ∧
        t.poll flight = { t with client := c, flights := t.flights.set flight f } := by
  unfold poll
  split
  · rename_i job found
    have acts := Client.poll_acts (k := []) t.client job
    simp only [List.append_nil] at acts
    refine .inr ⟨_, .ofProgress _ _, (List.getElem?_eq_some_iff.mp found).1, ?_, rfl⟩
    rw [heldBy_of_flight found, Flight.held_ofProgress]
    exact acts
  · rename_i run found
    have acts := Client.pollScript_acts (k := []) t.client run
    simp only [List.append_nil] at acts
    refine .inr ⟨_, .ofScript _ _, (List.getElem?_eq_some_iff.mp found).1, ?_, rfl⟩
    rw [heldBy_of_flight found, Flight.held_ofScript]
    exact acts
  · exact .inl rfl

theorem held_poll (t : Tab ω) (flight : Nat) :
    ∃ others, t.held.Perm (t.heldBy flight ++ others) ∧
      (t.poll flight).held.Perm ((t.poll flight).heldBy flight ++ others) := by
  rcases poll_cases t flight with same | ⟨c, f, below, _, after⟩
  · obtain ⟨others, perm⟩ := exists_others t flight
    rw [same]
    exact ⟨others, perm, perm⟩
  · refine ⟨(t.flights.eraseIdx flight).flatMap Flight.held ++ t.guests.map .listeners, ?_, ?_⟩
    · rw [heldBy_of_flight (List.getElem?_eq_getElem below), ← List.append_assoc]
      refine List.Perm.append_right _ ?_
      exact (List.getElem_cons_eraseIdx_perm below).symm.flatMap_right _
    · rw [after, heldBy_of_flight (f := f) (List.getElem?_set_self below), ← List.append_assoc]
      refine List.Perm.append_right _ ?_
      exact (List.set_perm_cons_eraseIdx below f).flatMap_right _

theorem guests_step (moves : t.subject event = some flight) : (t.step event).guests = t.guests := by
  cases event with
  | dispatch | run => rfl
  | poll flight =>
    show (t.poll flight).guests = t.guests
    rcases poll_cases t flight with same | ⟨_, _, _, _, after⟩
    · rw [same]
    · rw [after]
  | _ => cases moves

theorem flights_step_other (other : t.subject event ≠ some flight) :
    (t.step event).flights[flight]? = t.flights[flight]? := by
  have appended (f : Flight) (different : t.flights.length ≠ flight) :
      (t.flights ++ [f])[flight]? = t.flights[flight]? := by
    rcases Nat.lt_or_gt_of_ne different with above | below
    · rw [List.getElem?_eq_none (by simp; omega), List.getElem?_eq_none (by omega)]
    · exact List.getElem?_append_left below
  cases event with
  | dispatch action => exact appended _ fun same => other (congrArg some same)
  | run script => exact appended _ fun same => other (congrArg some same)
  | poll polled =>
    have different : polled ≠ flight := fun same => other (congrArg some same)
    rcases poll_cases t polled with same | ⟨_, _, _, _, after⟩
    · rw [step, same]
    · rw [step, after]
      exact List.getElem?_set_ne different
  | listen channel e => rw [step, flights_listen]
  | unlisten guest => rw [step, flights_unlisten]
  | _ => rfl

theorem heldBy_step_other (other : t.subject event ≠ some flight) :
    (t.step event).heldBy flight = t.heldBy flight := by
  unfold heldBy
  rw [flights_step_other other]

/-- The flight that an event starts or carries on goes through acts of its own. -/
theorem flight_acts (moves : t.subject event = some flight) :
    Acts t.client (t.heldBy flight) (t.step event).client ((t.step event).heldBy flight) := by
  cases event with
  | dispatch action =>
    cases moves
    have acts := Client.dispatch_acts (k := []) t.client action
    rw [List.append_nil] at acts
    rw [heldBy_length, step, heldBy_launch]
    exact acts
  | run script =>
    cases moves
    have acts := Client.runScript_acts (k := []) t.client script
    rw [List.append_nil] at acts
    rw [heldBy_length, step, heldBy_launchScript]
    exact acts
  | poll polled =>
    cases moves
    rcases poll_cases t flight with same | ⟨c, f, below, acts, after⟩
    · rw [step, same]
      exact .refl
    · have holds : ({ t with client := c, flights := t.flights.set flight f } : Tab ω).heldBy flight =
          f.held := heldBy_of_flight (List.getElem?_set_self below)
      rw [step, after, holds]
      exact acts
  | _ => cases moves

/-- What happens on a tab is acts of its client, with all that is held besides as it was. -/
theorem step_acts (t : Tab ω) (event : TabEvent ω) (works : ∀ world today, event ≠ .pass world today) :
    ∃ after others, t.held.Perm (t.moved event ++ others) ∧
      Acts t.client (t.moved event) (t.step event).client after ∧
      (t.step event).held.Perm (after ++ others) := by
  have quiet {c : Client ω} (still : Still t.client c) (same : c.world = t.client.world) :
      Acts t.client [] c [] := Client.quiet_acts still same
  cases event with
  | dispatch action =>
    have acts := Client.dispatch_acts (k := []) t.client action
    rw [List.append_nil] at acts
    exact ⟨_, t.held, .refl _, acts, held_launch t _⟩
  | run script =>
    have acts := Client.runScript_acts (k := []) t.client script
    rw [List.append_nil] at acts
    exact ⟨_, t.held, .refl _, acts, held_launchScript t _⟩
  | poll flight =>
    obtain ⟨others, before, after⟩ := t.held_poll flight
    exact ⟨_, others, before, flight_acts rfl, after⟩
  | fire channel s => exact ⟨[], t.held, .refl _, .single (.deliver channel s), .refl _⟩
  | pass world today => exact absurd rfl (works world today)
  | clear => exact ⟨[], t.held, .refl _, Client.clear_acts _, .refl _⟩
  | clearCache =>
    exact ⟨[], t.held, .refl _, quiet ⟨rfl, rfl, rfl, rfl, rfl, rfl, fun _ => rfl⟩ rfl, .refl _⟩
  | setCookie name value =>
    exact ⟨[], t.held, .refl _, quiet ⟨rfl, rfl, rfl, rfl, rfl, rfl, fun _ => rfl⟩ rfl, .refl _⟩
  | removeCookie name =>
    exact ⟨[], t.held, .refl _, quiet ⟨rfl, rfl, rfl, rfl, rfl, rfl, fun _ => rfl⟩ rfl, .refl _⟩
  | listen channel e =>
    show ∃ after others, _ ∧ Acts _ _ (t.listen channel e).client _ ∧
      (t.listen channel e).held.Perm _
    unfold listen
    split
    · rename_i below
      refine ⟨_, t.held, .refl _,
        .single (.install (.opened below) (List.nodup_singleton e)), ?_⟩
      show (t.flights.flatMap Flight.held ++ (t.guests ++ [_]).map Held.listeners).Perm _
      rw [List.map_append, ← List.append_assoc]
      exact List.perm_append_singleton _ _
    · exact ⟨[], t.held, .refl _, .refl, .refl _⟩
  | unlisten guest =>
    cases found : t.guests[guest]? with
    | none =>
      have same : t.step (.unlisten guest) = t := by rw [step, unlisten, found]
      have nothing : t.moved (.unlisten guest) = [] := by rw [moved, found, Option.elim_none]
      rw [same, nothing]
      exact ⟨[], t.held, .refl _, .refl, .refl _⟩
    | some s =>
      have after : t.step (.unlisten guest) =
          { t with client := t.client.release s.race, guests := t.guests.eraseIdx guest } := by
        rw [step, unlisten, found]
      have one : t.moved (.unlisten guest) = [.listeners s] := by rw [moved, found, Option.elim_some]
      obtain ⟨below, rfl⟩ := List.getElem?_eq_some_iff.mp found
      rw [after, one]
      refine ⟨[], t.flights.flatMap Flight.held ++ (t.guests.eraseIdx guest).map .listeners, ?_,
        .single (.release _), .refl _⟩
      have others := (List.getElem_cons_eraseIdx_perm below).symm.map Held.listeners
      exact (others.append_left _).trans List.perm_middle

theorem step_cases (t : Tab ω) (event : TabEvent ω) :
    (∃ world today, event = .pass world today) ∨
      ∃ after others, t.held.Perm (t.moved event ++ others) ∧
        Acts t.client (t.moved event) (t.step event).client after ∧
        (t.step event).held.Perm (after ++ others) := by
  by_cases passes : ∃ world today, event = .pass world today
  · exact .inl passes
  · exact .inr (t.step_acts event fun world today same => passes ⟨world, today, same⟩)

end Steps

end Tab

end LiveSession
