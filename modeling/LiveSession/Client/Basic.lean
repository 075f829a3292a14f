import LiveSession.Channel.Listeners
import LiveSession.Channel.Race
import LiveSession.Config.Profile
import LiveSession.Cookie.Jar
import LiveSession.Session.Basic

/-!
# Clients

A client is a session with its work in flight: the cookies, the listeners on every channel that it
has opened, and the races that collect what these listeners hear. It acts through `Transports`,
whose calls answer at once; what a channel dispatches during a call comes back as signals.

The file holds the state and what every action is made of: installing and releasing a race,
delivering an event, closing channels.
-/

namespace LiveSession

/-- The number of a request among all that were sent. -/
abbrev Ticket := Nat

abbrev RaceId := Nat

/-- An event that a channel dispatches. -/
structure Signal where
  event : String
  args : List Json := []
  deriving Repr

/-- The end of a request: how it ended, and the cookies that its responses set on the way. -/
structure Answer where
  result : Except Error HttpResponse
  setCookies : List String := []

/-- How a request stands that is waited for together with others. -/
inductive RequestState where
  | waiting
  | succeeded
  | failed
  deriving DecidableEq, Repr

/-- What a client acts through, with a clock. The channels are numbered in the order in which they
are opened. -/
class Transports (ω : Type) where
  /-- The time in milliseconds. -/
  now : ω → Nat
  /-- Sends a request with the cookies that it presents. -/
  send : HttpRequest → Option String → ω → ω × Ticket
  /-- The end of a request, once there is one. -/
  answer? : Ticket → ω → Option Answer
  /-- The place of the request whose failure ends a wait for all of them, if one does. -/
  breaker? : List RequestState → Option Nat
  /-- Opens a channel, which gets the next number. -/
  openChannel : Url → ChannelConfig → ω → Except Error ω
  /-- Starts to connect a channel. -/
  connect : ChannelId → ω → ω × List Signal
  /-- Closes a channel. -/
  disconnect : ChannelId → ω → ω × List Signal
  /-- Sends an event over a channel. -/
  emit : ChannelId → List Json → ω → Except Error ω
  /-- The state of a channel. -/
  stateOf : ChannelId → ω → ChannelState

/-- A race in flight: the listeners that it has on its channel, and what they have heard. -/
structure OpenRace where
  id : RaceId
  channel : ChannelId
  /-- The event and number of each listener. -/
  listeners : List (String × Nat)
  queue : List Occurrence := []
  deriving Repr

/-- A call of a client to its transports. -/
inductive TransportCall where
  | send (request : HttpRequest) (cookie : Option String)
  | openChannel (url : Url) (config : ChannelConfig)
  | connect (channel : ChannelId)
  | disconnect (channel : ChannelId)
  | emit (channel : ChannelId) (args : List Json) (accepted : Bool)

def closings (channel : ChannelId) (log : List TransportCall) : Nat :=
  log.countP fun
    | .disconnect ch => ch == channel
    | _ => false

/-- What happens to a channel of a client. -/
inductive ChannelEvent where
  /-- It is opened for a page. -/
  | opened (page : PageId) (channel : SocketChannel)
  /-- It is recorded on a page. -/
  | recorded (page : PageId) (channel : SocketChannel)
  /-- It dispatches an event. -/
  | dispatched (channel : ChannelId) (o : Occurrence)

/-- A session with its work in flight. -/
structure Client (ω : Type) where
  profile : Profile
  world : ω
  /-- The date of the wall clock, in seconds from 1970-01-01, that cookies expire by. -/
  today : Int := 0
  sources : Sources := {}
  cookies : CookieJar := {}
  session : Session := {}
  /-- The number of pages loaded so far. -/
  pages : Nat := 0
  /-- The listeners on each channel opened so far. -/
  channels : List (Listeners RaceId) := []
  races : List OpenRace := []
  /-- The number of races started so far. -/
  started : Nat := 0
  /-- A script is executing. -/
  running : Bool := false
  /-- All calls to the transports. -/
  log : List TransportCall := []
  /-- All that has happened to its channels. -/
  history : List ChannelEvent := []

namespace Client

variable {ω : Type} [Transports ω]

def now (c : Client ω) : Nat :=
  Transports.now c.world

def logged (c : Client ω) (call : TransportCall) : Client ω :=
  { c with log := c.log ++ [call] }

def draw (c : Client ω) (s : Span) : Client ω × Nat :=
  let (ms, sources) := s.span c.sources
  ({ c with sources }, ms)

def listenersOn (c : Client ω) (channel : ChannelId) : Listeners RaceId :=
  (c.channels[channel]?).getD {}

def withListeners (c : Client ω) (channel : ChannelId) (ls : Listeners RaceId) : Client ω :=
  { c with channels := c.channels.set channel ls }

/-! ### Delivery -/

def collect (o : Occurrence) (c : Client ω) (race : RaceId) : Client ω :=
  { c with
    races := c.races.map fun r => if r.id = race then { r with queue := r.queue ++ [o] } else r }

def deliver (channel : ChannelId) (c : Client ω) (s : Signal) : Client ω :=
  let o : Occurrence := ⟨s.event, s.args, c.now⟩
  ((c.listenersOn channel).on s.event).foldl (fun c r => c.collect o r.listener)
    { c with history := c.history ++ [.dispatched channel o] }

def deliverAll (channel : ChannelId) (signals : List Signal) (c : Client ω) : Client ω :=
  signals.foldl (deliver channel) c

/-! ### Races -/

/-- Starts a race on a channel, with one listener for each of the events. -/
def install (c : Client ω) (channel : ChannelId) (events : List String) : Client ω × RaceId :=
  let ls := c.listenersOn channel
  let race : OpenRace :=
    { id := c.started, channel, listeners := events.mapIdx fun i e => (e, ls.next + i) }
  ({ c.withListeners channel (events.foldl (fun ls e => ls.add e race.id) ls) with
      races := c.races ++ [race], started := c.started + 1 },
    race.id)

def release (c : Client ω) (race : RaceId) : Client ω :=
  match c.races.find? fun r => r.id = race with
  | none => c
  | some r =>
    { c.withListeners r.channel
        (r.listeners.foldl (fun ls l => ls.remove l.1 l.2) (c.listenersOn r.channel)) with
      races := c.races.filter fun r => r.id ≠ race }

def judge (c : Client ω) (race : RaceId) (deadline : Nat) (accept : Occurrence → Option α) :
    Option (RaceResult α) :=
  Race.poll deadline accept c.now ((c.races.find? fun r => r.id = race).elim [] OpenRace.queue)

/-! ### Closing -/

def disconnect (c : Client ω) (channel : ChannelId) : Client ω :=
  let (world, signals) := Transports.disconnect channel c.world
  deliverAll channel signals { c.logged (.disconnect channel) with world }

def disconnectAll (c : Client ω) (channels : List SocketChannel) : Client ω :=
  channels.foldl (fun c ch => c.disconnect ch.handle) c

def unloadPage (c : Client ω) : Client ω :=
  disconnectAll { c with session := c.session.unload } c.session.channels

/-- Makes the session ready for the next script: no page, no ajax result, no event, no cookies. The
static cache stays. -/
def clear (c : Client ω) : Client ω :=
  { c.unloadPage with cookies := {} }

def clearCache (c : Client ω) : Client ω :=
  { c with session := { c.session with cache := [] } }

def channelState? (c : Client ω) (ns : String) : Option ChannelState := do
  let page ← c.session.page
  let channel ← page.channels.find? ns
  return Transports.stateOf channel.handle c.world

end Client

inductive Outcome where
  | none
  | page (response : HttpResponse)
  | ajax (response : HttpResponse)
  | discarded (response : HttpResponse)
  | connected (ns : String)
  | event (e : SocketEvent)
  /-- The keys of the assets that were fetched. -/
  | assets (keys : List String)

abbrev ActionResult := Except Error Outcome

end LiveSession
