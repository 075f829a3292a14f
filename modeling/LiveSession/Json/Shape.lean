import LiveSession.Json.Basic

/-!
# Values of a given shape

Each reader gives the content of a value that has its shape and nothing for every other value.
-/

namespace LiveSession.Json

def asText? : Json → Option String
  | .str s => some s
  | _ => none

def asBool? : Json → Option Bool
  | .bool b => some b
  | _ => none

/-- A whole number from 0 to below `bound`. -/
def asWord? (bound : Nat) : Json → Option Nat
  | .int n => if 0 ≤ n ∧ n < bound then some n.toNat else none
  | _ => none

def asArray? : Json → Option (List Json)
  | .arr items => some items
  | _ => none

def asObject? : Json → Option (List (String × Json))
  | .obj members => some members
  | _ => none

def asTexts? : Json → Option (List String)
  | .arr items => items.mapM asText?
  | _ => none

/-- A value of the shape that `read` takes, or `null`, which stands for nothing. -/
def orNull? (read : Json → Option α) : Json → Option (Option α)
  | .null => some none
  | v => (read v).map some

end LiveSession.Json
