import LiveSession.Channel.State
import LiveSession.Error
import LiveSession.Http.Exchange

/-!
# Sessions

What a session remembers: the current page with its channels, the last ajax result, the last event
that was captured, and the static cache. A page that is replaced or unloaded hands back its
channels, which are then closed.
-/

namespace LiveSession

/-- The number of a channel among all that a client has opened. -/
abbrev ChannelId := Nat

/-- The number of a page among all that a client has loaded. -/
abbrev PageId := Nat

structure SocketChannel where
  ns : String
  config : ChannelConfig
  handle : ChannelId
  deriving DecidableEq, Repr, Inhabited

structure Page where
  id : PageId
  url : Url
  status : Nat
  body : String
  /-- The channels, by namespace. -/
  channels : Entries SocketChannel := []
  deriving Repr

def Page.ofResponse (id : PageId) (r : HttpResponse) : Page :=
  { id, url := r.url, status := r.status, body := r.body }

structure Session where
  page : Option Page := none
  ajax : Option HttpResponse := none
  event : Option SocketEvent := none
  /-- Bodies of static assets, by path and query. -/
  cache : Entries String := []

namespace Session

def channels (s : Session) : List SocketChannel :=
  match s.page with
  | none => []
  | some p => p.channels.map Prod.snd

/-- The session with a new page. The event goes with the old page. -/
def replacePage (s : Session) (page : Page) : Session :=
  { s with page := some page, event := none }

/-- The session without a page, ajax result and event. -/
def unload (s : Session) : Session :=
  { s with page := none, ajax := none, event := none }

/-- The current page, which an action called `action` requires. -/
def requirePage (s : Session) (action : String) : Except Error Page :=
  match s.page with
  | some p => .ok p
  | none => .error (.noPageLoaded action)

/-- The channel of a namespace on the current page, which an action called `action` requires. -/
def channel (s : Session) (action ns : String) : Except Error SocketChannel := do
  let page ← s.requirePage action
  match page.channels.find? ns with
  | some c => .ok c
  | none => .error (.noSuchChannel ns)

/-- Records a channel under its namespace, in place of one that is there. -/
def record (s : Session) (c : SocketChannel) : Session :=
  { s with page := s.page.map fun p => { p with channels := p.channels.set c.ns c } }

def keep (s : Session) (key body : String) : Session :=
  { s with cache := s.cache.set key body }

end Session

end LiveSession
