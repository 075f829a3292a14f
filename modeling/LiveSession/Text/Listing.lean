import LiveSession.Text.Blank
import LiveSession.Text.Quoted

/-!
# Listings of records

How records, options and lists are shown in log lines and descriptions: the fields of a record in
braces after its name, `Some(value)`, `[a, b]`, and spans of time with the unit that fits.
-/

namespace LiveSession.Text

def listing (items : List String) : String :=
  "[" ++ join ", " items ++ "]"

/-- Shown values in parentheses after a name, or without one. -/
def tupled (name : String) (items : List String) : String :=
  name ++ "(" ++ join ", " items ++ ")"

def shownOption (f : α → String) : Option α → String
  | none => "None"
  | some v => tupled "Some" [f v]

def fieldList (fields : List (String × String)) : String :=
  join ", " (fields.map fun f => f.1 ++ ": " ++ f.2)

def record (name : String) (fields : List (String × String)) : String :=
  name ++ " \x7b " ++ fieldList fields ++ " \x7d"

def openRecord (name : String) (fields : List (String × String)) : String :=
  name ++ " \x7b " ++ fieldList fields ++ ", .. \x7d"

def shownBool (b : Bool) : String :=
  if b then "true" else "false"

/-- A number of milliseconds as a span of time: whole milliseconds below a second, else seconds
with as many decimals as it takes. -/
def shownMillis (ms : Nat) : String :=
  if ms = 0 then "0ns"
  else if ms < 1000 then toString ms ++ "ms"
  else
    let rest := ms % 1000
    if rest = 0 then toString (ms / 1000) ++ "s"
    else
      let digits := (toString (1000 + rest)).toList.drop 1
      toString (ms / 1000) ++ "." ++ String.ofList (dropEndWhile (· == '0') digits) ++ "s"

end LiveSession.Text
