import LiveSession.Connection.Hub
import LiveSession.Http.Redirect
import LiveSession.Text.Listing
import LiveSession.Url.Parse

/-!
# Sharing of connections

Channels of one origin share the connection that was opened last for it, unless a new one is forced
or that one is closed. An origin is known by the URL of its handshake.
-/

namespace LiveSession

/-- The place of a channel: its hub among all hubs, and its number there. -/
structure ChannelPlace where
  hub : Nat
  id : ChannelId
  deriving DecidableEq, Repr

structure Multiplexer where
  hubs : List Hub := []
  /-- The latest hub of each origin. -/
  latest : Entries Nat := []

def socketScheme (url : Url) : Except Error String :=
  if url.scheme = "http" ∨ url.scheme = "ws" then .ok "ws"
  else if url.scheme = "https" ∨ url.scheme = "wss" then .ok "wss"
  else .error (.config ("unsupported channel scheme " ++ Text.quoted url.scheme))

/-- The URL of the handshake for the origin of a URL. -/
def handshakeUrl (url : Url) : Except Error Url := do
  let scheme ← socketScheme url
  match url.hostText? with
  | none => .error (.config ("channel URL " ++ url.text ++ " has no host"))
  | some host =>
    match Url.parse (scheme ++ "://" ++ host) with
    | .error fault => .error (.url fault)
    | .ok handshake =>
      let handshake := url.port.elim handshake handshake.withPort
      return { handshake with
        path := .segments ["socket.io", ""]
        query := some "EIO=3&transport=websocket" }

namespace Multiplexer

def hub? (m : Multiplexer) (i : Nat) : Option Hub :=
  m.hubs[i]?

def modify (m : Multiplexer) (i : Nat) (f : Hub → Hub) : Multiplexer :=
  { m with hubs := m.hubs.modify i f }

def isUsable (m : Multiplexer) (i : Nat) : Bool :=
  (m.hub? i).any fun h => !h.isClosed

/-- The number of origins whose latest connection is not closed. -/
def openCount (m : Multiplexer) : Nat :=
  m.latest.countP fun e => m.isUsable e.2

/-- The connection for a channel: the latest of its origin, or a new one. -/
def hubFor (m : Multiplexer) (handshake : Url) (config : ChannelConfig) : Multiplexer × Nat :=
  let key := handshake.text
  let fresh :=
    ({ hubs := m.hubs ++ [{ url := handshake, cookie := config.cookie }]
       latest := m.latest.set key m.hubs.length }, m.hubs.length)
  match m.latest.find? key with
  | some i => if !config.forceNew && m.isUsable i then (m, i) else fresh
  | none => fresh

def openChannel (m : Multiplexer) (url : Url) (config : ChannelConfig) :
    Except Error (Multiplexer × ChannelPlace) := do
  let handshake ← handshakeUrl url
  let (m, i) := m.hubFor handshake config
  let id := ((m.hub? i).map fun h => h.channels.length).getD 0
  let m := m.modify i fun h => h.create url.channelNamespace
  return (if config.autoConnect then m.modify i fun h => h.connect id else m, { hub := i, id })

def listing (m : Multiplexer) : String :=
  Text.record "SocketIoTransport" [("managers", toString m.latest.length)]

/-- The failure of a handshake: the cookies have to fit a header; `network` is the failure of the
network. -/
def handshakeFailure (h : Hub) (network : Error) : Error :=
  if h.cookie.all HttpRequest.isHeaderValue then network
  else .connection "invalid cookie header: failed to parse header value"

/-- Every handshake that goes on fails, for want of a network. -/
def failHandshakes (m : Multiplexer) (network : Error) : Multiplexer :=
  { m with hubs := m.hubs.map fun h =>
      if h.phase = .handshake then h.finish (some (handshakeFailure h network).message) else h }

end Multiplexer

end LiveSession
