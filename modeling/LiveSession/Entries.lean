/-!
# Insertion-ordered maps

A map from names to values is the list of its entries in the order in which the names came in.
Setting a name that is there keeps its place.
-/

namespace LiveSession

/-- Names with their values, in the order in which the names came in. -/
abbrev Entries (α : Type u) := List (String × α)

namespace Entries

/-- Gives `name` the value `v`: in its place if it is there, else at the end. -/
def set (name : String) (v : α) : Entries α → Entries α
  | [] => [(name, v)]
  | (n, w) :: rest => if n = name then (n, v) :: rest else (n, w) :: set name v rest

def find? (name : String) : Entries α → Option α
  | [] => none
  | (n, v) :: rest => if n = name then some v else find? name rest

def erase (name : String) (es : Entries α) : Entries α :=
  es.filter fun e => e.1 ≠ name

def names (es : Entries α) : List String :=
  es.map Prod.fst

def holds (name : String) (es : Entries α) : Bool :=
  es.any fun e => e.1 = name

end Entries

end LiveSession
