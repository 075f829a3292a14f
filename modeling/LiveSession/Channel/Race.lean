import LiveSession.Json.Basic

/-!
# Events against a deadline

Whoever waits on a channel collects what is delivered, each occurrence stamped with the time of its
delivery. The stamps alone decide: an occurrence at or after the deadline is late, however late the
collected occurrences are read.

A deadline is the time at which the race begins with its limit added. That sum is taken to be a time:
no limit is so long that a clock could not show its end.
-/

namespace LiveSession

/-- An event as a channel delivered it. -/
structure Occurrence where
  event : String
  args : List Json
  /-- When it was delivered, in milliseconds. -/
  time : Nat
  deriving Repr

/-- How a race ended: with what an occurrence was accepted as, or with the deadline. -/
inductive RaceResult (α : Type u) where
  | resolved (value : α)
  | elapsed
  deriving DecidableEq, Repr

namespace Race

/-- Reads the collected occurrences in order: a late one ends the race, so does the first that is
accepted; others are passed over. -/
def read (deadline : Nat) (accept : Occurrence → Option α) : List Occurrence → Option (RaceResult α)
  | [] => none
  | o :: rest =>
    if deadline ≤ o.time then some .elapsed
    else match accept o with
      | some v => some (.resolved v)
      | none => read deadline accept rest

/-- The end of the race as it is known at `now`, if it is over. -/
def poll (deadline : Nat) (accept : Occurrence → Option α) (now : Nat) (queue : List Occurrence) :
    Option (RaceResult α) :=
  match read deadline accept queue with
  | some result => some result
  | none => if deadline ≤ now then some .elapsed else none

/-! ### A race that is run -/

/-- How far the task has come that waits for the end of a race. -/
inductive Stage (α : Type u) where
  /-- It waits for an occurrence until the deadline. -/
  | waiting
  /-- Its timer has fired. It looks at the queue once more before it gives up. -/
  | expired
  /-- The listeners are gone and the queue is empty. It sleeps until the deadline. -/
  | stranded
  | ended (result : RaceResult α)
  deriving DecidableEq, Repr

/-- A race that is run: the queue between the listeners and the task that waits. -/
structure Waiter (α : Type u) where
  /-- The occurrences that have not been taken yet. -/
  queue : List Occurrence := []
  /-- The channel has dropped the listeners. -/
  dropped : Bool := false
  stage : Stage α := .waiting
  /-- The occurrences that `accept` has been asked about. -/
  shown : List Occurrence := []
  deriving Repr

/-- What happens to a race that is run. -/
inductive Move where
  /-- A listener stamps an occurrence and queues it. -/
  | arrival (o : Occurrence)
  | drop (now : Nat)
  /-- The task goes on to its next look at the queue or the timer. When it waits for both and the queue
  does not serve it, it looks at the timer although something may be queued. -/
  | poll (now : Nat) (served : Bool)
  deriving Repr

def Move.time : Move → Nat
  | arrival o => o.time
  | drop now | poll now _ => now

namespace Waiter

/-- A race at its start, with the occurrences that have been collected for it before. -/
def start (collected : List Occurrence) : Waiter α :=
  { queue := collected }

variable (deadline : Nat) (accept : List Occurrence → Occurrence → Option α)

/-- Judges an occurrence that has been taken from the queue. A late one ends the race. `accept` is
asked about the others, and may remember those that it was asked about before. -/
def take (w : Waiter α) (o : Occurrence) (queue : List Occurrence) : Waiter α :=
  if deadline ≤ o.time then { w with queue, stage := .ended .elapsed }
  else
    { w with
      queue
      stage := match accept w.shown o with
        | some v => .ended (.resolved v)
        | none => .waiting
      shown := w.shown ++ [o] }

def ring (w : Waiter α) (now : Nat) : Waiter α :=
  if deadline ≤ now then { w with stage := .expired } else w

def proceed (w : Waiter α) (now : Nat) (served : Bool) : Waiter α :=
  match w.stage with
  | .waiting =>
    if served then
      match w.queue with
      | o :: queue => w.take deadline accept o queue
      | [] => if w.dropped then { w with stage := .stranded } else w.ring deadline now
    else w.ring deadline now
  | .expired =>
    match w.queue with
    | o :: queue => w.take deadline accept o queue
    | [] => { w with stage := .ended .elapsed }
  | .stranded => if deadline ≤ now then { w with stage := .ended .elapsed } else w
  | .ended _ => w

/-- The race after a move. A listener that was dropped queues nothing. -/
def step (w : Waiter α) : Move → Waiter α
  | .arrival o => if w.dropped then w else { w with queue := w.queue ++ [o] }
  | .drop _ => { w with dropped := true }
  | .poll now served => w.proceed deadline accept now served

def run (w : Waiter α) (moves : List Move) : Waiter α :=
  moves.foldl (step deadline accept) w

def result? (w : Waiter α) : Option (RaceResult α) :=
  match w.stage with
  | .ended result => some result
  | _ => none

end Waiter

end Race

end LiveSession
