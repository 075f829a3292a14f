import LiveSession.Decimal.Binary64
import LiveSession.Entries

/-!
# JSON values

Objects keep the order of their members. Whole numbers and floating-point numbers are different
values, and `Json.same` compares objects without regard to order.
-/

namespace LiveSession

/-- A JSON value. Whole numbers lie between `-2 ^ 63` and `2 ^ 64`. -/
inductive Json where
  | null
  | bool (b : Bool)
  | int (n : Int)
  | float (x : Binary64)
  | str (s : String)
  | arr (items : List Json)
  | obj (members : List (String × Json))
  deriving Inhabited, Repr

namespace Json

/-- Whole numbers without a sign are below this, `2 ^ 64`. -/
def wordLimit : Nat := 0x10000000000000000

/-- Whole numbers with a sign lie from the negative of this, `2 ^ 63`, to below it. -/
def signedLimit : Nat := 0x8000000000000000

/-- The member `key` of an object; every other value has none. -/
def get? (key : String) : Json → Option Json
  | .obj members => Entries.find? key members
  | _ => none

mutual

/-- Equality of values: objects are equal if they have as many members and each member of the first
is in the second. -/
def same : Json → Json → Bool
  | .null, .null => true
  | .bool a, .bool b => a == b
  | .int a, .int b => a == b
  | .float a, .float b => a.sameValue b
  | .str a, .str b => a == b
  | .arr as, .arr bs => sameItems as bs
  | .obj as, .obj bs => as.length == bs.length && sameMembers as bs
  | _, _ => false

def sameItems : List Json → List Json → Bool
  | [], [] => true
  | a :: as, b :: bs => same a b && sameItems as bs
  | _, _ => false

def sameMembers : List (String × Json) → List (String × Json) → Bool
  | [], _ => true
  | (key, a) :: rest, bs =>
    (match Entries.find? key bs with
      | some b => same a b
      | none => false) && sameMembers rest bs

end

def someItemSame (v : Json) (items : List Json) : Bool :=
  items.any fun item => same item v

end Json

end LiveSession
