import LiveSession.Client.Basic

/-!
# HTTP actions

A request is resolved against the server, sent, and its response put where the action wants it: it
becomes the page, the ajax result, or is only returned.
-/

namespace LiveSession.Client

variable {ω : Type} [Transports ω]

def drawParams (sources : Sources) : List (String × Param) → List (String × String) × Sources
  | [] => ([], sources)
  | (name, value) :: rest =>
    let (text, sources) := value.text sources
    let (params, sources) := drawParams sources rest
    ((name, text) :: params, sources)

/-- Sends the request of an action, with its parameters evaluated now. -/
def send (c : Client ω) (r : RequestAction) : Client ω × Except Error Ticket :=
  match c.profile.resolve r.path with
  | .error e => (c, .error e)
  | .ok url =>
    let (params, sources) := drawParams c.sources r.params
    let request : HttpRequest := { method := r.method, url, params, ajax := r.ajax }
    let cookie := c.cookies.header?
    let (world, ticket) := Transports.send request cookie c.world
    ({ c.logged (.send request cookie) with sources, world }, .ok ticket)

/-- Takes the answer of a request for `path`: the cookies that it sets are stored, and a failure is
told with the path. -/
def receive (c : Client ω) (path : String) (a : Answer) : Client ω × Except Error HttpResponse :=
  let c := { c with cookies := a.setCookies.foldl (fun jar h => jar.store c.today h) c.cookies }
  match a.result with
  | .ok response => (c, .ok response)
  | .error e => (c, .error (.transportUnavailable path e.message))

/-- Loads a page: the channels of the page before are closed. -/
def loadPage (c : Client ω) (response : HttpResponse) : Client ω :=
  disconnectAll
    { c with
      session := c.session.replacePage (Page.ofResponse c.pages response)
      pages := c.pages + 1 }
    c.session.channels

def place (c : Client ω) (r : RequestAction) (response : HttpResponse) : Client ω × Outcome :=
  if r.discard then (c, .discarded response)
  else if r.ajax then
    ({ c with session := { c.session with ajax := some response } }, .ajax response)
  else (c.loadPage response, .page response)

/-- Ajax calls and posts need a page. -/
def needsPage (r : RequestAction) : Bool :=
  r.ajax || r.method == .post

def startRequest (c : Client ω) (kind : HttpKind) (r : RequestAction) :
    Client ω × Except Error Ticket :=
  if needsPage r && c.session.page.isNone then (c, .error (.noPageLoaded kind.kind.name))
  else c.send r

/-- Goes on with a request that was sent, if it has ended. -/
def finishRequest? (c : Client ω) (r : RequestAction) (ticket : Ticket) :
    Option (Client ω × ActionResult) :=
  (Transports.answer? ticket c.world).map fun a =>
    match c.receive r.path a with
    | (c, .error e) => (c, .error e)
    | (c, .ok response) =>
      let (c, outcome) := c.place r response
      (c, .ok outcome)

end LiveSession.Client
