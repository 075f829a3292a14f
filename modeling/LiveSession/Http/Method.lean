import LiveSession.Error
import LiveSession.Text.Blank

/-!
# Request methods
-/

namespace LiveSession

inductive Method where
  | get
  | post
  | put
  | patch
  | delete
  | head
  deriving DecidableEq, Repr, Inhabited

namespace Method

def all : List Method := [get, post, put, patch, delete, head]

def name : Method → String
  | get => "GET"
  | post => "POST"
  | put => "PUT"
  | patch => "PATCH"
  | delete => "DELETE"
  | head => "HEAD"

/-- Parameters travel in the query of these methods, and in the body of the others. -/
def paramsInQuery : Method → Bool
  | get | head | delete => true
  | post | put | patch => false

def ofName? (text : String) : Option Method :=
  all.find? fun m => m.name == Text.upper text

/-- The method of a name in any ASCII case; other names are refused. -/
def read (text : String) : Except Error Method :=
  match ofName? text with
  | some m => .ok m
  | none => .error (.invalidArgument ("unsupported HTTP method: " ++ Text.upper text))

end Method

end LiveSession
