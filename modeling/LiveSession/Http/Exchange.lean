import LiveSession.Http.Method
import LiveSession.Json.Render
import LiveSession.Url.Basic

/-!
# Requests and responses
-/

namespace LiveSession

/-- A request with its parameters evaluated. -/
structure HttpRequest where
  method : Method
  url : Url
  params : List (String × String) := []
  /-- The request is marked as one of a script in the page. -/
  ajax : Bool := false
  deriving DecidableEq, Repr

/-- The response that a request ends with, after all redirects. -/
structure HttpResponse where
  status : Nat
  body : String
  /-- Where the response comes from. -/
  url : Url
  deriving DecidableEq, Repr

namespace HttpResponse

def isSuccess (r : HttpResponse) : Bool :=
  200 ≤ r.status && r.status < 300

def toJson (r : HttpResponse) : Json :=
  .obj [("status", .int r.status), ("body", .str r.body), ("url", .str r.url.text)]

end HttpResponse

end LiveSession
