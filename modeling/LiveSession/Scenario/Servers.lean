import LiveSession.Channel.State
import LiveSession.Client.Basic
import LiveSession.Url.Parse

/-!
# Scripted servers

An HTTP server with routes, and channels that behave as they were told when they were opened, on a
clock that moves only when it is set. What happens later stands in an agenda, in the order of time
and then of scheduling.
-/

namespace LiveSession.Scenario

structure Route where
  path : String
  status : Nat := 200
  body : String := ""
  /-- The time that the answer takes; without one the answer is there at once. -/
  ms : Option Nat := none
  /-- The server does not answer. -/
  down : Bool := false
  setCookies : List String := []
  /-- Where the response comes from, relative to the request. -/
  url : Option String := none

inductive ConnectKind where
  /-- The channel cannot be opened. -/
  | refuse
  /-- There is no answer. -/
  | never
  | error (args : List Json)
  | accept
  deriving Repr

structure Behavior where
  kind : ConnectKind := .accept
  /-- The time that the answer takes; without one it comes inside the call. -/
  ms : Option Nat := none
  /-- What is dispatched after the connect. -/
  welcome : List Signal := []
  deriving Repr

/-- An answer to every event of one name: another event with the same arguments. -/
structure Echo where
  on : String
  reply : String
  ms : Nat
  deriving Repr

structure ServedChannel where
  ns : String
  state : ChannelState := .idle
  behavior : Behavior
  /-- Events cannot be sent. -/
  failEmit : Bool := false
  deriving Repr

inductive Happening where
  /-- The attempt to connect is answered. -/
  | answer
  | signal (s : Signal)
  deriving Repr

structure Appointment where
  due : Nat
  channel : ChannelId
  what : Happening
  deriving Repr

/-- The answer of a request, and when it is there. -/
structure PromisedAnswer where
  due : Nat
  answer : Answer

structure Servers where
  now : Nat := 0
  /-- The routes, the latest first. -/
  routes : List Route := []
  /-- How channels connect that are opened from now on. -/
  behavior : Behavior := {}
  echoes : List Echo := []
  channels : List ServedChannel := []
  agenda : List Appointment := []
  /-- The answers of all requests so far. -/
  promises : List PromisedAnswer := []

namespace Servers

/-- Puts an entry behind all that are due no later. -/
def insertAppointment (a : Appointment) : List Appointment → List Appointment
  | [] => [a]
  | b :: rest => if b.due ≤ a.due then b :: insertAppointment a rest else a :: b :: rest

def plan (s : Servers) (ms : Nat) (channel : ChannelId) (what : Happening) : Servers :=
  { s with agenda := insertAppointment ⟨s.now + ms, channel, what⟩ s.agenda }

def modify (s : Servers) (channel : ChannelId) (f : ServedChannel → ServedChannel) : Servers :=
  { s with channels := s.channels.modify channel f }

def setState (s : Servers) (channel : ChannelId) (state : ChannelState) : Servers :=
  s.modify channel fun c => { c with state }

def stateOf (s : Servers) (channel : ChannelId) : ChannelState :=
  (s.channels[channel]?).elim .idle ServedChannel.state

/-! ### HTTP -/

def notFound (path : String) : Route :=
  { path, status := 404, body := "not found" }

def routeOf (s : Servers) (path : String) : Route :=
  (s.routes.find? fun r => r.path = path).getD (notFound path)

def Route.answer (r : Route) (url : Url) : Answer :=
  if r.down then { result := .error (.connection ("connection refused: " ++ url.pathText)) }
  else
    let source : Except Url.Fault Url :=
      match r.url with
      | none => .ok url
      | some reference => url.join reference
    match source with
    | .error fault => { result := .error (.url fault), setCookies := r.setCookies }
    | .ok source =>
      { result := .ok { status := r.status, body := r.body, url := source }
        setCookies := r.setCookies }

def send (request : HttpRequest) (_ : Option String) (s : Servers) : Servers × Ticket :=
  let route := s.routeOf request.url.pathText
  ({ s with promises := s.promises ++ [⟨s.now + route.ms.getD 0, Route.answer route request.url⟩] },
    s.promises.length)

def answer? (ticket : Ticket) (s : Servers) : Option Answer :=
  match s.promises[ticket]? with
  | none => none
  | some p => if p.due ≤ s.now then some p.answer else none

/-- The largest number of requests that are waited for as a group. -/
def groupLimit : Nat := 30

/-- The first failure of a group counts. More requests than make a group are looked at in order, so that
a failure counts once all before it have succeeded. -/
def breaker? (states : List RequestState) : Option Nat :=
  if states.length ≤ groupLimit then states.findIdx? fun s => s = .failed
  else (states.findIdx? fun s => s ≠ .succeeded).filter fun i => states[i]? = some .failed

/-! ### Channels -/

def openChannel (url : Url) (_ : ChannelConfig) (s : Servers) : Except Error Servers :=
  match s.behavior.kind with
  | .refuse => .error (.connection "open refused")
  | _ =>
    let channel := { ns := url.channelNamespace, behavior := s.behavior }
    .ok { s with channels := s.channels ++ [channel] }

def answerAttempt (channel : ChannelId) (s : Servers) : Servers × List Signal :=
  match s.channels[channel]? with
  | none => (s, [])
  | some c =>
    if c.state ≠ .connecting then (s, [])
    else match c.behavior.kind with
      | .error args => (s.setState channel .errored, [⟨connectErrorEvent, args⟩])
      | _ => (s.setState channel .connected, ⟨connectEvent, []⟩ :: c.behavior.welcome)

def connect (channel : ChannelId) (s : Servers) : Servers × List Signal :=
  match s.channels[channel]? with
  | none => (s, [])
  | some c =>
    let s := s.setState channel .connecting
    match c.behavior.kind, c.behavior.ms with
    | .never, _ => (s, [])
    | _, none => s.answerAttempt channel
    | _, some ms => (s.plan ms channel .answer, [])

def disconnect (channel : ChannelId) (s : Servers) : Servers × List Signal :=
  (s.setState channel .closed,
    if s.stateOf channel = .connected then [⟨disconnectEvent, [.str clientReason]⟩] else [])

/-- Takes an event: each echo of its name is planned. -/
def emit (channel : ChannelId) (args : List Json) (s : Servers) : Except Error Servers :=
  if (s.channels[channel]?).any ServedChannel.failEmit then .error .connectionClosed
  else match args with
    | .str name :: rest =>
      .ok ((s.echoes.filter fun e => e.on = name).foldl
        (fun s e => s.plan e.ms channel (.signal ⟨e.reply, rest⟩)) s)
    | _ => .ok s

instance : Transports Servers where
  now := Servers.now
  send := send
  answer? := answer?
  breaker? := breaker?
  openChannel := openChannel
  connect := connect
  disconnect := disconnect
  emit := emit
  stateOf channel s := s.stateOf channel

def latest? (s : Servers) (ns : String) : Option ChannelId :=
  (s.channels.zipIdx.filter fun p => p.1.ns = ns).getLast?.map Prod.snd

end Servers

end LiveSession.Scenario
