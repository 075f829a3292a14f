import LiveSession.Cookie.Date
import LiveSession.Entries

/-!
# The cookie jar

A session talks to one server, so cookies are kept by name alone, in the order in which the names
came in. `CookieJar.header?` is the jar as a request presents it, `CookieJar.store` what a response
does to it.
-/

namespace LiveSession

structure CookieJar where
  entries : Entries String := []
  deriving DecidableEq, Repr, Inhabited

namespace CookieJar

/-- Sets a cookie; a name that is there keeps its place. -/
def set (jar : CookieJar) (name value : String) : CookieJar :=
  ⟨jar.entries.set name value⟩

def get? (jar : CookieJar) (name : String) : Option String :=
  jar.entries.find? name

def contains (jar : CookieJar) (name : String) : Bool :=
  jar.entries.holds name

def remove (jar : CookieJar) (name : String) : CookieJar :=
  ⟨jar.entries.erase name⟩

def size (jar : CookieJar) : Nat :=
  jar.entries.length

/-- The cookies as a request presents them: each as `name=value`, in order, between semicolons;
nothing if there is none. -/
def header? (jar : CookieJar) : Option String :=
  if jar.entries.isEmpty then none
  else some (Text.join "; " (jar.entries.map fun e => e.1 ++ "=" ++ e.2))

end CookieJar

structure SetCookie where
  name : String
  value : String
  /-- The last `Max-Age`, in seconds, if it is a number. -/
  maxAge : Option Int
  /-- The last `Expires`, in seconds from 1970-01-01, if it is a date. -/
  expires : Option Int
  deriving DecidableEq, Repr

namespace SetCookie

open Text

def wholeNumber? (cs : List Char) : Option Int :=
  match cs with
  | '-' :: ds => (digits? ds).map fun n => -(n : Int)
  | '+' :: ds => (digits? ds).map fun n => (n : Int)
  | ds => (digits? ds).map fun n => (n : Int)
where
  digits? (ds : List Char) : Option Nat :=
    if ds = [] ∨ ¬ ds.all Char.isDigit then none
    else some (ds.foldl (fun n d => n * 10 + (d.toNat - '0'.toNat)) 0)

/-- The numbers of seconds that count go from the negative of this, `2 ^ 63`, to below it. -/
def ageLimit : Int := 0x8000000000000000

def maxAge? (cs : List Char) : Option Int :=
  (wholeNumber? cs).filter fun n => decide (-ageLimit ≤ n ∧ n < ageLimit)

/-- The effect of one attribute; only two have any, and those without `=` have none. -/
def withAttribute (c : SetCookie) (piece : List Char) : SetCookie :=
  match cut? '=' piece with
  | none => c
  | some (key, value) =>
    let key := (strip key).map Char.toLower
    if key = "max-age".toList then { c with maxAge := maxAge? (strip value) }
    else if key = "expires".toList then { c with expires := CookieDate.read? (strip value) }
    else c

/-- The cookie that a header sets: the first piece is its name and value, the others attributes.
Nothing is set without `=` in the first piece, or without a name. -/
def read? (header : String) : Option SetCookie :=
  match splitAll ';' header.toList with
  | [] => none
  | first :: attributes =>
    match cut? '=' first with
    | none => none
    | some (name, value) =>
      let name := strip name
      if name = [] then none
      else
        let value := stripWhile (· == '"') (strip value)
        some (attributes.foldl withAttribute
          ⟨String.ofList name, String.ofList value, none, none⟩)

/-- The cookie is over at `now`, in seconds: its age is not positive, or it has no age and its date
is not after `now`. -/
def isOver (c : SetCookie) (now : Int) : Bool :=
  match c.maxAge, c.expires with
  | some age, _ => age ≤ 0
  | none, some at' => at' ≤ now
  | none, none => false

end SetCookie

/-- What a header of a response does to the jar: it sets a cookie, or removes one that is over. -/
def CookieJar.store (jar : CookieJar) (now : Int) (header : String) : CookieJar :=
  match SetCookie.read? header with
  | none => jar
  | some c => if c.isOver now then jar.remove c.name else jar.set c.name c.value

end LiveSession
