/-!
# Values computed at call time

A parameter, timeout or delay is fixed, or drawn afresh from a numbered source each time it is
needed. `Sources` holds what the sources yield and how often each has been drawn from; drawing is
the only effect.
-/

namespace LiveSession

/-- A fixed value, or one drawn from the source with this number at each call. -/
inductive Computed (α : Type) where
  | fixed (value : α)
  | drawn (source : Nat)
  deriving DecidableEq, Repr

/-- The values that a source yields at its draws, and the count of the draws so far. -/
structure Source (α : Type) where
  value : Nat → α
  draws : Nat := 0

namespace Source

/-- Yields the values of `first :: rest` in turn, and the last one from then on. -/
def ofList (first : α) (rest : List α) : Source α :=
  { value := fun n => ((first :: rest)[n]?).getD ((first :: rest).getLast (by simp)) }

def draw (s : Source α) : α × Source α :=
  (s.value s.draws, { s with draws := s.draws + 1 })

end Source

/-- The sources of computed parameter values and of computed spans of time in milliseconds. -/
structure Sources where
  texts : List (Source String) := []
  spans : List (Source Nat) := []

namespace Computed

/-- The current value, and the sources after the draw; a source that is not there yields
`default`. -/
def resolveIn [Inhabited α] (sources : List (Source α)) : Computed α → α × List (Source α)
  | fixed v => (v, sources)
  | drawn i =>
    match sources[i]? with
    | none => (default, sources)
    | some s => (s.draw.1, sources.set i s.draw.2)

def text (c : Computed String) (sources : Sources) : String × Sources :=
  let (v, texts) := c.resolveIn sources.texts
  (v, { sources with texts })

def span (c : Computed Nat) (sources : Sources) : Nat × Sources :=
  let (v, spans) := c.resolveIn sources.spans
  (v, { sources with spans })

end Computed

abbrev Param := Computed String

/-- A timeout or delay in milliseconds. The time at which it is over is taken to be one that a clock can
show. -/
abbrev Span := Computed Nat

end LiveSession
