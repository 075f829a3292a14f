import LiveSession.Url.Basic

/-!
# Channels

A channel is one namespace on a connection. Beside the events of the application it dispatches three
of its own: when it connects, when connecting fails, and when it is disconnected.
-/

namespace LiveSession

inductive ChannelState where
  | idle
  | connecting
  | connected
  | errored
  | closed
  deriving DecidableEq, Repr, Inhabited

def ChannelState.name : ChannelState → String
  | idle => "idle"
  | connecting => "connecting"
  | connected => "connected"
  | errored => "errored"
  | closed => "closed"

def connectEvent : String := "connect"

def connectErrorEvent : String := "connect_error"

def disconnectEvent : String := "disconnect"

def clientReason : String := "io client disconnect"

def serverReason : String := "io server disconnect"

structure ChannelConfig where
  /-- A new connection is started, instead of sharing one. -/
  forceNew : Bool := false
  /-- Connecting starts at once. -/
  autoConnect : Bool := false
  /-- The cookies that the handshake presents. -/
  cookie : Option String := none
  deriving DecidableEq, Repr, Inhabited

/-- The namespace that the URL of a channel names: its path, where the root is empty. -/
def Url.channelNamespace (url : Url) : String :=
  if url.pathText = "/" then "" else url.pathText

end LiveSession
