import LiveSession.Json.Fields
import LiveSession.Packet.Socket

/-!
# Engine packets

One text frame of the connection: the handshake, its end, heartbeats, and socket packets.
-/

namespace LiveSession

/-- What the server tells when a connection opens; times in milliseconds. -/
structure OpenInfo where
  sid : String
  upgrades : List String := []
  pingInterval : Nat
  pingTimeout : Nat
  deriving DecidableEq, Repr

namespace OpenInfo

def toJson (info : OpenInfo) : Json :=
  .obj [("sid", .str info.sid), ("upgrades", .arr (info.upgrades.map .str)),
    ("pingInterval", .int info.pingInterval), ("pingTimeout", .int info.pingTimeout)]

/-- The handshake that a document stands for; the upgrades may be left out of an object. -/
def ofDocument? (d : Document) : Option OpenInfo := do
  match ← d.fields? ["sid", "upgrades", "pingInterval", "pingTimeout"] with
  | [some sid, upgrades, some interval, some limit] =>
    return {
      sid := ← sid.asText?
      upgrades := ← upgrades.elim (some []) Json.asTexts?
      pingInterval := ← interval.asWord? Json.wordLimit
      pingTimeout := ← limit.asWord? Json.wordLimit }
  | _ => none

end OpenInfo

/-- One text frame of a connection. -/
inductive EnginePacket where
  | opened (info : OpenInfo)
  | close
  | ping (payload : String)
  | pong (payload : String)
  | message (packet : SocketPacket)
  | upgrade
  | noop

namespace EnginePacket

def encode : EnginePacket → String
  | opened info => "0" ++ info.toJson.render
  | close => "1"
  | ping payload => "2" ++ payload
  | pong payload => "3" ++ payload
  | message packet => "4" ++ packet.encode
  | upgrade => "5"
  | noop => "6"

/-- The frame that a text stands for; what follows a close, upgrade or noop is ignored. -/
def decode (text : String) : Except Error EnginePacket :=
  match text.toList with
  | [] => .error (.protocol "empty engine packet")
  | c :: rest =>
    let payload := String.ofList rest
    if c = '0' then
      match (Document.read? payload).bind OpenInfo.ofDocument? with
      | some info => .ok (.opened info)
      | none => .error .malformed
    else if c = '1' then .ok .close
    else if c = '2' then .ok (.ping payload)
    else if c = '3' then .ok (.pong payload)
    else if c = '4' then .message <$> SocketPacket.decode payload
    else if c = '5' then .ok .upgrade
    else if c = '6' then .ok .noop
    else .error (.protocol ("unknown engine packet type " ++ Text.quotedChar c))

end EnginePacket

end LiveSession
