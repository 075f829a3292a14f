import LiveSession.Json.Fields
import LiveSession.Json.Render
import LiveSession.Json.Shape

/-!
# Captured events

An event that arrived on a channel: where, of which type, and with which arguments.
-/

namespace LiveSession

/-- An event received on the channel of the namespace `ns`. -/
structure SocketEvent where
  ns : String
  name : String
  args : List Json
  deriving Inhabited

def SocketEvent.toJson (e : SocketEvent) : Json :=
  .obj [("namespace", .str e.ns), ("eventType", .str e.name), ("args", .arr e.args)]

def SocketEvent.ofDocument? (d : Document) : Option SocketEvent := do
  match ← d.fields? ["namespace", "eventType", "args"] with
  | [some ns, some name, some (.arr args)] =>
    return { ns := ← ns.asText?, name := ← name.asText?, args }
  | _ => none

end LiveSession
