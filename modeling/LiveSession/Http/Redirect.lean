import LiveSession.Cookie.Jar
import LiveSession.Error
import LiveSession.Http.Exchange
import LiveSession.Http.Form
import LiveSession.Url.Parse

/-!
# Following redirects

A request is sent hop by hop until a response is no redirect. Every hop presents the cookies of the
jar as the responses before it left them; at most `maxHops` requests are sent.

* 301, 302 and 303 with a location go on with a GET without parameters;
* 307 and 308 with a location go on with the same method and parameters;
* every other response is the answer.
-/

namespace LiveSession

structure Hop where
  method : Method
  /-- With the parameters that travel in the query. -/
  url : Url
  /-- The form, where the parameters travel in the body. -/
  body : Option String
  cookie : Option String
  ajax : Bool
  deriving DecidableEq, Repr

structure HopResponse where
  status : Nat
  /-- Names and values, in order. -/
  headers : List (String × String) := []
  /-- The body, or how it breaks off. -/
  body : Except Error String := .ok ""
  /-- By how many seconds the clock has gone on since the request was started. -/
  elapsed : Int := 0

/-- What answers a request, given those before it. -/
abbrev HopServer := List Hop → Hop → Except Error HopResponse

namespace Hop

def accept (h : Hop) : String :=
  if h.ajax then "application/json, text/javascript, */*; q=0.01" else "*/*"

/-- The mark of a request by a script in the page. -/
def requestedWith (h : Hop) : Option String :=
  if h.ajax then some "XMLHttpRequest" else none

def contentType (h : Hop) : Option String :=
  h.body.map fun _ => "application/x-www-form-urlencoded"

end Hop

namespace HopResponse

/-- Characters of a header that can be read: visible ASCII, the space and the tab. -/
def isHeaderChar (c : Char) : Bool :=
  (0x20 ≤ c.toNat && c.toNat < 0x7F) || c == '\t'

def readable? (value : String) : Option String :=
  if value.toList.all isHeaderChar then some value else none

def values (r : HopResponse) (name : String) : List String :=
  (r.headers.filter fun h => Text.sameIgnoringCase h.1 name).map Prod.snd

def setCookies (r : HopResponse) : List String :=
  (r.values "set-cookie").filterMap readable?

/-- The location that a response names; only the first counts. -/
def location? (r : HopResponse) : Option String :=
  (r.values "location").head?.bind readable?

end HopResponse

/-- The jar after a response to a request that was started at the date `today`. -/
def CookieJar.receive (today : Int) (jar : CookieJar) (r : HopResponse) : CookieJar :=
  r.setCookies.foldl (fun jar header => jar.store (today + r.elapsed) header) jar

structure NextRequest where
  method : Method
  url : Url
  params : List (String × String)
  deriving DecidableEq, Repr

/-- How a response is followed: with the answer of the request, or with another hop. -/
inductive Follow where
  | answer (r : HttpResponse)
  | hop (next : NextRequest)
  | failure (e : Error)

namespace HttpRequest

def maxHops : Nat := 11

/-- Whether a text can be the value of a header that is sent: no control characters but the tab. -/
def isHeaderValue (s : String) : Bool :=
  s.toList.all fun c => (0x20 ≤ c.toNat && c.toNat ≠ 0x7F) || c == '\t'

/-- The hop of a request; only the two schemes of HTTP and cookies that fit a header can be sent. -/
def hop (next : NextRequest) (ajax : Bool) (jar : CookieJar) : Except Error Hop :=
  let cookie := jar.header?
  if next.url.scheme ≠ "http" ∧ next.url.scheme ≠ "https" ∨ ¬ cookie.all isHeaderValue then
    .error (.http "builder error")
  else if next.method.paramsInQuery then
    let url := next.url.withParameters next.params
    .ok { method := next.method, url, body := none, cookie, ajax }
  else
    let body := some (Form.encode next.params)
    .ok { method := next.method, url := next.url, body, cookie, ajax }

def resolveLocation (url : Url) (location : String) : Except Error Url :=
  match url.join location with
  | .ok u => .ok u
  | .error fault => .error (.url fault)

def goTo (sent : NextRequest) (location : String) (change : Url → NextRequest) : Follow :=
  match resolveLocation sent.url location with
  | .ok url => .hop (change url)
  | .error e => .failure e

def answer (hop : Hop) (r : HopResponse) : Follow :=
  match r.body with
  | .ok body => .answer { status := r.status, body, url := hop.url }
  | .error e => .failure e

def follow (sent : NextRequest) (hop : Hop) (r : HopResponse) : Follow :=
  match r.location? with
  | none => answer hop r
  | some location =>
    if 301 ≤ r.status ∧ r.status ≤ 303 then
      goTo sent location fun url => { method := .get, url, params := [] }
    else if r.status = 307 ∨ r.status = 308 then
      goTo sent location fun url => { sent with url }
    else answer hop r

structure Ending where
  result : Except Error HttpResponse
  jar : CookieJar
  hops : List Hop

def tooManyRedirects (url : Url) : Error :=
  .connection ("more than " ++ toString (maxHops - 1) ++ " redirects from " ++ url.text)

/-- Sends at most `n` hops, the first of them `next`, after the hops `sent`. -/
def sendHops (server : HopServer) (today : Int) (r : HttpRequest) (next : NextRequest)
    (jar : CookieJar) (sent : List Hop) : Nat → Ending
  | 0 => ⟨.error (tooManyRedirects r.url), jar, sent⟩
  | n + 1 =>
    match hop next r.ajax jar with
    | .error e => ⟨.error e, jar, sent⟩
    | .ok h =>
      match server sent h with
      | .error e => ⟨.error e, jar, sent ++ [h]⟩
      | .ok response =>
        let jar := jar.receive today response
        match follow next h response with
        | .answer a => ⟨.ok a, jar, sent ++ [h]⟩
        | .failure e => ⟨.error e, jar, sent ++ [h]⟩
        | .hop next => sendHops server today r next jar (sent ++ [h]) n

def run (server : HopServer) (today : Int) (r : HttpRequest) (jar : CookieJar) : Ending :=
  sendHops server today r { method := r.method, url := r.url, params := r.params } jar [] maxHops

end HttpRequest

end LiveSession
