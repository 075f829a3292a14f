import LiveSession.Channel.Listeners
import LiveSession.Channel.State
import LiveSession.Packet.Engine
import LiveSession.Session.Basic
import LiveSession.Url.Basic

/-!
# Connections with their channels

A hub is one connection to one origin with all channels that were opened on it. A channel attaches
to the hub when it connects, under its namespace; the hub then asks the server for that namespace,
hands incoming packets to the channel that attached last, and shuts the connection down when the
last channel detaches.

What is sent is put into a queue of commands, which the loop of the connection takes from.
-/

namespace LiveSession

inductive HubState where
  /-- Nothing has attached yet. -/
  | idle
  | connecting
  /-- The server has opened the session. -/
  | opened
  | closed
  deriving DecidableEq, Repr, Inhabited

/-- How far the loop of a connection is. -/
inductive LoopPhase where
  | unstarted
  | handshake
  | running
  | ended
  deriving DecidableEq, Repr, Inhabited

/-- What the loop is told to do. -/
inductive Command where
  | send (frame : EnginePacket)
  | shutdown

structure HubChannel where
  /-- The namespace of the client; the root is empty. -/
  ns : String
  state : ChannelState := .idle
  /-- Events to send once the channel is connected. -/
  buffer : List (List Json) := []
  listeners : Listeners Unit := {}
  /-- Nobody holds the channel any more. -/
  dropped : Bool := false
  /-- What has been dispatched, each with the number of listeners called. -/
  dispatched : List (String × List Json × Nat) := []
  /-- The listeners that have been called, each with its arguments. -/
  called : List (Registration Unit × List Json) := []
  deriving Inhabited

/-- A connection with its channels. -/
structure Hub where
  /-- The URL of the handshake. -/
  url : Url
  /-- The cookies that the handshake presents. -/
  cookie : Option String := none
  state : HubState := .idle
  phase : LoopPhase := .unstarted
  channels : List HubChannel := []
  /-- The channel that attached last, by namespace on the wire. -/
  attached : Entries ChannelId := []
  /-- The namespaces that the server has confirmed. -/
  confirmed : List String := []
  /-- The queue takes commands. -/
  accepting : Bool := false
  /-- All commands so far. -/
  queue : List Command := []

namespace HubChannel

def wire (c : HubChannel) : String :=
  wireNamespace c.ns

/-- Calls the listeners for an event. What they do to the registry in turn is no part of a hub. -/
def dispatch (c : HubChannel) (event : String) (args : List Json) : HubChannel :=
  { c with
    dispatched := c.dispatched ++ [(event, args, c.listeners.count event)]
    called := c.called ++ (c.listeners.on event).map fun r => (r, args) }

end HubChannel

namespace Hub

def channel (h : Hub) (id : ChannelId) : HubChannel :=
  (h.channels[id]?).getD default

def modify (h : Hub) (id : ChannelId) (f : HubChannel → HubChannel) : Hub :=
  { h with channels := h.channels.modify id f }

def dispatch (h : Hub) (id : ChannelId) (event : String) (args : List Json) : Hub :=
  h.modify id fun c => c.dispatch event args

/-- Whether the connection has ended, or is about to. -/
def isClosed (h : Hub) : Bool :=
  h.state = .closed

def create (h : Hub) (ns : String) : Hub :=
  { h with channels := h.channels ++ [{ ns }] }

def listen (h : Hub) (id : ChannelId) (event : String) : Hub :=
  h.modify id fun c => { c with listeners := c.listeners.add event () }

def unlisten (h : Hub) (id : ChannelId) (event : String) (number : Nat) : Hub :=
  h.modify id fun c => { c with listeners := c.listeners.remove event number }

/-! ### The queue -/

/-- Puts a command into the queue, if it takes any. -/
def enqueue (h : Hub) (command : Command) : Hub :=
  if h.accepting then { h with queue := h.queue ++ [command] } else h

def send (h : Hub) (frame : EnginePacket) : Except Error Hub :=
  if h.accepting then .ok (h.enqueue (.send frame)) else .error .connectionClosed

/-- Tells the loop to shut down; nothing is taken after that. -/
def shutDown (h : Hub) : Hub :=
  { h.enqueue .shutdown with accepting := false }

/-- Puts the event of a channel into the queue, if it takes any. -/
def sendEvent (h : Hub) (id : ChannelId) (args : List Json) : Hub :=
  h.enqueue (.send (.message (.event (h.channel id).wire args)))

/-! ### What a channel is told -/

/-- The namespace of a channel is connected: what was buffered is sent. -/
def onConnected (h : Hub) (id : ChannelId) : Hub :=
  let c := h.channel id
  if c.state ≠ .connecting then h
  else
    let h := h.modify id fun c => { c with state := .connected, buffer := [] }
    (c.buffer.foldl (fun h args => h.sendEvent id args) h).dispatch id connectEvent []

def onConnectError (h : Hub) (id : ChannelId) (message : String) : Hub :=
  if (h.channel id).state = .closed then h
  else
    (h.modify id fun c => { c with state := .errored, buffer := [] }).dispatch id connectErrorEvent
      [.str message]

/-- The namespace of a channel is closed from outside. -/
def onClosed (h : Hub) (id : ChannelId) (reason : String) : Hub :=
  match (h.channel id).state with
  | .connected =>
    (h.modify id fun c => { c with state := .closed, buffer := [] }).dispatch id disconnectEvent
      [.str reason]
  | .connecting =>
    (h.modify id fun c => { c with state := .errored, buffer := [] }).dispatch id connectErrorEvent
      [.str reason]
  | _ => h

/-- An event has arrived for a channel, which has to be connected. -/
def onEvent (h : Hub) (id : ChannelId) (event : String) (args : List Json) : Hub :=
  if (h.channel id).state = .connected then h.dispatch id event args else h

/-! ### Attaching -/

/-- Attaches a channel under its namespace. The first one starts the loop. -/
def attach (h : Hub) (id : ChannelId) : Hub :=
  let wire := (h.channel id).wire
  let h := { h with attached := h.attached.set wire id }
  match h.state with
  | .idle => { h with state := .connecting, phase := .handshake, accepting := true }
  | .connecting => h
  | .opened =>
    if h.confirmed.contains wire then h.onConnected id
    else h.enqueue (.send (.message (.connect wire)))
  | .closed => h.onConnectError id "connection closed"

/-- Detaches a channel, unless another one has attached under its namespace since. The last one
shuts the connection down. -/
def detach (h : Hub) (id : ChannelId) : Hub :=
  let wire := (h.channel id).wire
  if h.attached.find? wire ≠ some id then h
  else
    let h := { h with attached := h.attached.erase wire, confirmed := h.confirmed.erase wire }
    if h.attached.isEmpty ∧ h.accepting then { h.shutDown with state := .closed } else h

/-! ### What a client does with a channel -/

/-- Starts to connect a channel, unless it connects or is connected. -/
def connect (h : Hub) (id : ChannelId) : Hub :=
  match (h.channel id).state with
  | .connecting | .connected => h
  | _ => (h.modify id fun c => { c with state := .connecting }).attach id

def disconnect (h : Hub) (id : ChannelId) : Hub :=
  let c := h.channel id
  if c.state = .closed then h
  else
    let h := h.modify id fun c => { c with state := .closed, buffer := [] }
    if c.state = .connected then
      ((h.enqueue (.send (.message (.disconnect c.wire)))).detach id).dispatch id disconnectEvent
        [.str clientReason]
    else h.detach id

def namelessEvent : Error :=
  .invalidArgument "emit needs an event name"

/-- Sends an event over a channel, or buffers it until the channel is connected. -/
def emit (h : Hub) (id : ChannelId) (args : List Json) : Except Error Hub :=
  if args.isEmpty then .error namelessEvent
  else
    match (h.channel id).state with
    | .connected => h.send (.message (.event (h.channel id).wire args))
    | .idle | .connecting => .ok (h.modify id fun c => { c with buffer := c.buffer ++ [args] })
    | .errored | .closed => .error .connectionClosed

/-- Nobody holds a channel any more: one that is not closed is detached. -/
def drop (h : Hub) (id : ChannelId) : Hub :=
  if (h.channel id).dropped then h
  else
    let h := h.modify id fun c => { c with dropped := true }
    if (h.channel id).state = .closed then h else h.detach id

/-! ### What the loop does -/

/-- The channel that a packet for a namespace is for. -/
def addressee? (h : Hub) (wire : String) : Option ChannelId :=
  (h.attached.find? wire).filter fun id => !(h.channel id).dropped

/-- Notes what a packet says about its namespace. -/
def note (h : Hub) (p : SocketPacket) : Hub :=
  match p.kind with
  | .connect =>
    if h.confirmed.contains p.ns then h else { h with confirmed := h.confirmed ++ [p.ns] }
  | .disconnect | .error => { h with confirmed := h.confirmed.erase p.ns }
  | .event | .ack => h

def hand (h : Hub) (id : ChannelId) (p : SocketPacket) : Hub :=
  match p.kind with
  | .connect => h.onConnected id
  | .disconnect => h.onClosed id serverReason
  | .error => h.onConnectError id p.errorMessage
  | .event =>
    match p.eventParts? with
    | some (event, args) => h.onEvent id event args
    | none => h
  | .ack => h

def receivePacket (h : Hub) (p : SocketPacket) : Hub :=
  let h := h.note p
  match h.addressee? p.ns with
  | some id => h.hand id p
  | none => h

/-- The namespaces that have attached, the root apart: the server connects that one by itself. -/
def namespaces (h : Hub) : List String :=
  h.attached.names.filter fun wire => wire ≠ rootNamespace

/-- Applies an incoming frame. The second part is the frame to answer with. -/
def receive (h : Hub) : EnginePacket → Hub × Option EnginePacket
  | .opened _ =>
    let h := { h with state := .opened }
    (h.namespaces.foldl (fun h wire => h.enqueue (.send (.message (.connect wire)))) h, none)
  | .ping payload => (h, some (.pong payload))
  | .close => (h.shutDown, none)
  | .message p => (h.receivePacket p, none)
  | .pong _ | .upgrade | .noop => (h, none)

/-- Ends the loop: all channels are told. A `failure` is that of the handshake. -/
def finish (h : Hub) (failure : Option String) : Hub :=
  let ids := h.attached.map Prod.snd
  let h :=
    { h with
      state := .closed, phase := .ended, accepting := false, confirmed := [], attached := [] }
  ids.foldl
    (fun h id =>
      if (h.channel id).dropped then h
      else match failure with
        | some message => h.onConnectError id message
        | none => h.onClosed id "transport close")
    h

end Hub

inductive HubEvent where
  | create (ns : String)
  | listen (id : ChannelId) (event : String)
  | unlisten (id : ChannelId) (event : String) (number : Nat)
  | connect (id : ChannelId)
  | disconnect (id : ChannelId)
  | emit (id : ChannelId) (args : List Json)
  | drop (id : ChannelId)
  /-- The handshake has succeeded. -/
  | accepted
  | receive (frame : EnginePacket)
  /-- The loop ends. -/
  | finish (failure : Option String)

namespace Hub

def isHeld (h : Hub) (id : ChannelId) : Bool :=
  (h.channels[id]?).any fun c => !c.dropped

/-- The hub after an event; one that cannot happen changes nothing. -/
def step (h : Hub) : HubEvent → Hub
  | .create ns => h.create ns
  | .listen id event => if h.isHeld id then h.listen id event else h
  | .unlisten id event number => if h.isHeld id then h.unlisten id event number else h
  | .connect id => if h.isHeld id then h.connect id else h
  | .disconnect id => if h.isHeld id then h.disconnect id else h
  | .emit id args =>
    if h.isHeld id then
      match h.emit id args with
      | .ok h => h
      | .error _ => h
    else h
  | .drop id => if h.isHeld id then h.drop id else h
  | .accepted => if h.phase = .handshake then { h with phase := .running } else h
  | .receive frame => if h.phase = .running then (h.receive frame).1 else h
  | .finish failure =>
    if h.phase = .handshake ∨ h.phase = .running then h.finish failure else h

def run (h : Hub) (events : List HubEvent) : Hub :=
  events.foldl step h

end Hub

end LiveSession
