import LiveSession.Json.Basic

/-!
# Listeners

The listeners of a channel, in the order in which they were registered. A dispatch calls the
listeners that are registered for its event when it starts. Listeners are code: when one is called,
it may register and remove listeners, itself included, and dispatch again. `Machine` runs a program
with such listeners step by step; `Recorder` holds listeners that record their calls.
-/

namespace LiveSession

structure Registration (α : Type) where
  id : Nat
  event : String
  listener : α
  deriving DecidableEq, Repr

/-- The listeners of a channel. Numbers are given once; `next` is the first that is free. -/
structure Listeners (α : Type) where
  entries : List (Registration α) := []
  next : Nat := 0
  deriving Repr, Inhabited

namespace Listeners

def add (ls : Listeners α) (event : String) (listener : α) : Listeners α :=
  { entries := ls.entries ++ [⟨ls.next, event, listener⟩], next := ls.next + 1 }

def isAt (event : String) (id : Nat) (r : Registration α) : Bool :=
  r.event == event && r.id == id

/-- The registry when a number has been given elsewhere. -/
def skip (ls : Listeners α) : Listeners α :=
  { ls with next := ls.next + 1 }

def remove (ls : Listeners α) (event : String) (id : Nat) : Listeners α :=
  { ls with entries := ls.entries.filter fun r => !isAt event id r }

def holds (ls : Listeners α) (event : String) (id : Nat) : Bool :=
  ls.entries.any (isAt event id)

def on (ls : Listeners α) (event : String) : List (Registration α) :=
  ls.entries.filter fun r => r.event == event

def size (ls : Listeners α) : Nat :=
  ls.entries.length

def count (ls : Listeners α) (event : String) : Nat :=
  (ls.on event).length

end Listeners

/-! ### Programs that use a registry -/

/-- What a program does next, and where it goes on from the answer. A listener that is called is part
of the program. -/
inductive Move (α κ : Type) where
  /-- The listener returns, or the program ends. -/
  | finish
  /-- Something that does not concern the registry. -/
  | idle (next : κ)
  | add (event : String) (listener : α) (next : Nat → κ)
  | remove (event : String) (id : Nat) (next : Bool → κ)
  | dispatch (event : String) (args : List Json) (next : Nat → κ)
  | count (event : String) (next : Nat → κ)
  | size (next : Nat → κ)
  /-- It registers a listener in another registry, which takes a number as well. -/
  | addElsewhere (next : Nat → κ)

/-- The code of a program. `κ` are the points that it may come to, and `σ` is its memory, which all
listeners share. -/
structure Program (α κ σ : Type) where
  /-- Where a listener starts that is called with these arguments. -/
  entry : Registration α → List Json → κ
  move : κ → σ → Move α κ × σ

/-- What happens to a registry. A dispatch is known by its place among the happenings. -/
inductive Happening (α : Type) where
  | added (r : Registration α)
  | removed (event : String) (id : Nat) (answer : Bool)
  | dispatched (event : String) (args : List Json)
  | called (dispatch : Nat) (r : Registration α) (args : List Json)
  | returned (dispatch : Nat) (answer : Nat)
  | counted (event : String) (answer : Nat)
  | sized (answer : Nat)

structure Dispatch (α κ : Type) where
  /-- Its place among the happenings. -/
  number : Nat
  args : List Json
  /-- The listeners that it has still to call. -/
  pending : List (Registration α)
  /-- What it answers. -/
  count : Nat
  next : Nat → κ

/-- A program that runs, the registry that it uses, and what has happened to it. -/
structure Machine (α κ σ : Type) where
  listeners : Listeners α
  memory : σ
  /-- Where the program is, or the listener that has been called; `none` when it has finished. -/
  point : Option κ
  /-- The dispatches around that point, the innermost first. -/
  dispatches : List (Dispatch α κ) := []
  log : List (Happening α) := []

namespace Machine

variable {α κ σ : Type}

/-- Carries out a move. A dispatch takes down which listeners are registered now. -/
def perform (m : Machine α κ σ) : Move α κ → Machine α κ σ
  | .finish => { m with point := none }
  | .idle next => { m with point := some next }
  | .add event listener next =>
    let id := m.listeners.next
    { m with
      listeners := m.listeners.add event listener
      point := some (next id)
      log := m.log ++ [.added ⟨id, event, listener⟩] }
  | .remove event id next =>
    let answer := m.listeners.holds event id
    { m with
      listeners := m.listeners.remove event id
      point := some (next answer)
      log := m.log ++ [.removed event id answer] }
  | .dispatch event args next =>
    let targets := m.listeners.on event
    { m with
      point := none
      dispatches := ⟨m.log.length, args, targets, targets.length, next⟩ :: m.dispatches
      log := m.log ++ [.dispatched event args] }
  | .count event next =>
    let answer := m.listeners.count event
    { m with point := some (next answer), log := m.log ++ [.counted event answer] }
  | .size next =>
    let answer := m.listeners.size
    { m with point := some (next answer), log := m.log ++ [.sized answer] }
  | .addElsewhere next =>
    { m with listeners := m.listeners.skip, point := some (next m.listeners.next) }

/-- The innermost dispatch calls its next listener, or returns to where it was started. -/
def proceed (p : Program α κ σ) (m : Machine α κ σ) (d : Dispatch α κ)
    (outer : List (Dispatch α κ)) : Machine α κ σ :=
  match d.pending with
  | [] =>
    { m with
      point := some (d.next d.count)
      dispatches := outer
      log := m.log ++ [.returned d.number d.count] }
  | r :: pending =>
    { m with
      point := some (p.entry r d.args)
      dispatches := { d with pending } :: outer
      log := m.log ++ [.called d.number r d.args] }

def step (p : Program α κ σ) (m : Machine α κ σ) : Option (Machine α κ σ) :=
  match m.point, m.dispatches with
  | some k, _ =>
    let (move, memory) := p.move k m.memory
    some ({ m with memory }.perform move)
  | none, d :: outer => some (m.proceed p d outer)
  | none, [] => none

def run (p : Program α κ σ) : Nat → Machine α κ σ → Machine α κ σ
  | 0, m => m
  | n + 1, m =>
    match m.step p with
    | none => m
    | some m' => run p n m'

end Machine

/-! ### Listeners that record their calls -/

/-- What a listener does when it is called, beside recording the call. -/
inductive Reaction where
  /-- It removes itself. -/
  | leave
  /-- It registers a listener that only records. -/
  | register (event label : String)
  deriving Repr

structure LabelledListener where
  label : String
  reactions : List Reaction := []
  deriving Repr

structure RecordedCall where
  id : Nat
  label : String
  args : List Json
  deriving Repr

structure Recorder where
  listeners : Listeners LabelledListener := {}
  calls : List RecordedCall := []
  deriving Inhabited

namespace Recorder

/-- Where a program is that dispatches one event to labelled listeners. -/
inductive Point where
  | start (event : String) (args : List Json)
  | reacting (self : Registration LabelledListener) (left : List Reaction)
  | over (answer : Nat)

/-- Dispatches one event, and keeps the answer. -/
def program : Program LabelledListener Point Nat where
  entry self _ := .reacting self self.listener.reactions
  move
    | .start event args, answer => (.dispatch event args .over, answer)
    | .reacting _ [], answer => (.finish, answer)
    | .reacting self (.leave :: left), answer =>
      (.remove self.event self.id fun _ => .reacting self left, answer)
    | .reacting self (.register event label :: left), answer =>
      (.add event { label } fun _ => .reacting self left, answer)
    | .over answer, _ => (.finish, answer)

/-- The steps from here to the return of a dispatch: each listener's call, reactions and return. -/
def pendingSteps : List (Registration LabelledListener) → Nat
  | [] => 1
  | r :: pending => r.listener.reactions.length + 2 + pendingSteps pending

/-- The steps that a dispatch to these listeners takes, with its start and the end. -/
def dispatchSteps (targets : List (Registration LabelledListener)) : Nat :=
  pendingSteps targets + 2

def recordedCall? : Happening LabelledListener → Option RecordedCall
  | .called _ r args => some ⟨r.id, r.listener.label, args⟩
  | _ => none

def dispatch (r : Recorder) (event : String) (args : List Json) : Recorder × Nat :=
  let start : Machine LabelledListener Point Nat :=
    { listeners := r.listeners, memory := 0, point := some (.start event args) }
  let m := start.run program (dispatchSteps (r.listeners.on event))
  (⟨m.listeners, r.calls ++ m.log.filterMap recordedCall?⟩, m.memory)

end Recorder

end LiveSession
