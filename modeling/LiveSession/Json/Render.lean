import LiveSession.Decimal.Shortest
import LiveSession.Json.Basic
import LiveSession.Text.Quoted

/-!
# JSON texts of values

The compact text of a value: no blanks, members in their order, and in strings only the quote, the
backslash and the control characters below the space escaped.
-/

namespace LiveSession.Json

def escapeChar (c : Char) : String :=
  if c = '"' then "\\\""
  else if c = '\\' then "\\\\"
  else if c = '\x08' then "\\b"
  else if c = '\x0c' then "\\f"
  else if c = '\n' then "\\n"
  else if c = '\r' then "\\r"
  else if c = '\t' then "\\t"
  else if c.toNat < 0x10 then "\\u000" ++ Text.hex c.toNat
  else if c.toNat < 0x20 then "\\u00" ++ Text.hex c.toNat
  else String.singleton c

def renderString (s : String) : String :=
  "\"" ++ s.foldl (fun out c => out ++ escapeChar c) "" ++ "\""

mutual

def render : Json → String
  | .null => "null"
  | .bool true => "true"
  | .bool false => "false"
  | .int n => toString n
  | .float x => x.text
  | .str s => renderString s
  | .arr [] => "[]"
  | .arr (v :: rest) => "[" ++ render v ++ renderItems rest ++ "]"
  | .obj [] => "\x7b\x7d"
  | .obj ((key, v) :: rest) =>
    "\x7b" ++ renderString key ++ ":" ++ render v ++ renderMembers rest ++ "\x7d"

/-- The items after the first, each after a comma. -/
def renderItems : List Json → String
  | [] => ""
  | v :: rest => "," ++ render v ++ renderItems rest

/-- The members after the first, each after a comma. -/
def renderMembers : List (String × Json) → String
  | [] => ""
  | (key, v) :: rest => "," ++ renderString key ++ ":" ++ render v ++ renderMembers rest

end

end LiveSession.Json
