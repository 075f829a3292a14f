import LiveSession.Text.Blank
import LiveSession.Text.Percent
import LiveSession.Url.Basic

/-!
# Parameters in forms and queries

The body of a form writes each parameter as `name=value` with `&` between them; `Form.decode?` reads
it back. In a query a space becomes `+`, and fewer characters are kept.
-/

namespace LiveSession

namespace Form

/-- Kept in forms: letters, digits and four marks. -/
def isKept (c : Char) : Bool :=
  c.isAlphanum || c == '-' || c == '_' || c == '.' || c == '~'

def encodeText (s : String) : List Char :=
  Percent.encode isKept s.toList

def encodePair (p : String × String) : List Char :=
  encodeText p.1 ++ '=' :: encodeText p.2

def encodePairs : List (String × String) → List Char
  | [] => []
  | [p] => encodePair p
  | p :: rest => encodePair p ++ '&' :: encodePairs rest

def encode (params : List (String × String)) : String :=
  String.ofList (encodePairs params)

def decodeText? (cs : List Char) : Option String :=
  (Percent.decodeText? cs).map String.ofList

def decodePair? (cs : List Char) : Option (String × String) := do
  let (name, value) ← Text.cut? '=' cs
  return (← decodeText? name, ← decodeText? value)

/-- The parameters that the body of a form stands for; an empty body has none. -/
def decode? (body : String) : Option (List (String × String)) :=
  if body.isEmpty then some [] else (Text.splitAll '&' body.toList).mapM decodePair?

end Form

namespace Url

def keptInParameter (c : Char) : Bool :=
  c.isAlphanum || c == '*' || c == '-' || c == '.' || c == '_' || c == ' '

/-- A name or value in a query; a space becomes `+`. -/
def parameterText (s : String) : List Char :=
  (Percent.encode keptInParameter s.toList).map fun c => if c = ' ' then '+' else c

def parameterPair (p : String × String) : String :=
  String.ofList (parameterText p.1 ++ '=' :: parameterText p.2)

/-- A URL with parameters after those of its query. -/
def withParameters (u : Url) (params : List (String × String)) : Url :=
  if params.isEmpty then u
  else
    let pairs := params.map parameterPair
    { u with query := some (Text.join "&" (match u.query with
        | none | some "" => pairs
        | some q => q :: pairs)) }

end Url

end LiveSession
