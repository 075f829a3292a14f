import LiveSession.Connection.Hub

/-!
# The loop of a connection

The loop waits for what comes first: a frame from the server, a command from the queue of its hub, or
the time of the next heartbeat. It ends with the socket, or with the command to shut down, for which
it says goodbye to the server.
-/

namespace LiveSession

/-- A frame that the loop hands to the socket, and why. -/
inductive Offer where
  /-- It was in the queue. -/
  | queued (frame : EnginePacket)
  /-- It answers a frame of the server. -/
  | reply (frame : EnginePacket)
  | heartbeat
  /-- The loop has been told to shut down. -/
  | goodbye

def Offer.frame : Offer → EnginePacket
  | queued frame | reply frame => frame
  | heartbeat => .ping ""
  | goodbye => .close

/-- A hub with its loop. -/
structure Loop where
  hub : Hub
  /-- The number of commands that have been taken from the queue. -/
  taken : Nat := 0
  /-- The time between two heartbeats in milliseconds, once the server has set one. -/
  interval : Option Nat := none
  /-- What the socket has been handed so far, whether it could be written or not. -/
  offered : List Offer := []
  /-- Nothing is waited for any more. -/
  left : Bool := false

namespace Loop

def isWaiting (l : Loop) : Bool :=
  l.hub.phase = .running && !l.left

/-- A heartbeat is sent from the first handshake on that sets a time for it. -/
def beats (l : Loop) : EnginePacket → Option Nat
  | .opened info => if 0 < info.pingInterval then some info.pingInterval else none
  | _ => l.interval

def hear (l : Loop) (frame : EnginePacket) : Loop :=
  if l.isWaiting then
    let (hub, reply) := l.hub.receive frame
    { l with hub, interval := l.beats frame, offered := l.offered ++ (reply.map .reply).toList }
  else l

def shutDown (l : Loop) : Loop :=
  { l with offered := l.offered ++ [.goodbye], left := true }

/-- Takes the next command. An empty queue that takes no more commands counts as the last one. -/
def take (l : Loop) : Loop :=
  if l.isWaiting then
    match l.hub.queue[l.taken]? with
    | some (.send frame) => { l with taken := l.taken + 1, offered := l.offered ++ [.queued frame] }
    | some .shutdown => { l with taken := l.taken + 1 }.shutDown
    | none => if l.hub.accepting then l else l.shutDown
  else l

def beat (l : Loop) : Loop :=
  if l.isWaiting ∧ l.interval.isSome then { l with offered := l.offered ++ [.heartbeat] } else l

/-- The socket has ended by itself, or could not be written. -/
def lose (l : Loop) : Loop :=
  if l.isWaiting then { l with left := true } else l

/-- The handshake is over: the loop begins to wait, or it ends with the failure. -/
def shake (l : Loop) (failure : Option String) : Loop :=
  if l.hub.phase = .handshake then
    match failure with
    | none => { l with hub := { l.hub with phase := .running } }
    | some _ => { l with hub := l.hub.finish failure }
  else l

def finish (l : Loop) : Loop :=
  if l.hub.phase = .running ∧ l.left then { l with hub := l.hub.finish none } else l

end Loop

end LiveSession
