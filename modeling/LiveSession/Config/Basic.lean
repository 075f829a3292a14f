import LiveSession.Action.Decode
import LiveSession.Config.Level
import LiveSession.Json.Fields
import LiveSession.Text.Listing
import LiveSession.Url.Parse

/-!
# Configurations

The options of a client as a JSON document gives them, and the URL of the server.
-/

namespace LiveSession

structure ServerConfig where
  host : String
  port : Option Nat := none
  scheme : String := "http"
  deriving DecidableEq, Repr

structure SocketsConfig where
  defaultNamespace : Option String := none
  /-- In milliseconds. -/
  defaultTimeout : Option Nat := none
  deriving DecidableEq, Repr

structure ClientConfig where
  identity : Option String := none
  logLevel : Option String := none
  server : ServerConfig
  sockets : SocketsConfig := {}
  deriving DecidableEq, Repr

namespace ServerConfig

def effectivePort (c : ServerConfig) : Nat :=
  c.port.getD (if c.scheme = "https" then 443 else 80)

def withoutHost : Error :=
  .config ("Server host is required. Use .server() to set it.\n" ++
    "Example: Client::builder().server(ServerConfig::new(\"localhost\", 3000))")

def unsupportedScheme (scheme : String) : Error :=
  .config ("Unsupported server scheme " ++ Text.quoted scheme ++ "; expected \"http\" or \"https\"")

/-- The host as it stands in a URL: an IPv6 address gets brackets. -/
def hostText (c : ServerConfig) : String :=
  let host := Text.trim c.host
  match Url.readIpv6? host.toList with
  | some pieces => (Url.Host.ipv6 pieces).text
  | none => host

/-- The URL that all paths are resolved against. -/
def baseUrl (c : ServerConfig) : Except Error Url :=
  if Text.isBlankText c.host then .error withoutHost
  else if c.scheme ≠ "http" ∧ c.scheme ≠ "https" then .error (unsupportedScheme c.scheme)
  else
    match Url.parse (c.scheme ++ "://" ++ c.hostText ++ "/") with
    | .ok url => .ok (url.withPort c.effectivePort)
    | .error fault => .error (.url fault)

def ofDocument? (d : Document) : Option ServerConfig := do
  match ← d.fields? ["host", "port", "scheme"] with
  | [some host, port, scheme] =>
    return {
      host := ← host.asText?
      port := ← port.elim (some none) (Json.orNull? (Json.asWord? 65536))
      scheme := ← scheme.elim (some "http") Json.asText? }
  | _ => none

def toJson (c : ServerConfig) : Json :=
  .obj [("host", .str c.host), ("port", c.port.elim .null fun p => .int p),
    ("scheme", .str c.scheme)]

def listing (c : ServerConfig) : String :=
  Text.record "ServerConfig" [("host", Text.quoted c.host),
    ("port", Text.shownOption toString c.port), ("scheme", Text.quoted c.scheme)]

end ServerConfig

namespace SocketsConfig

def ofDocument? (d : Document) : Option SocketsConfig := do
  match ← d.fields? ["defaultNamespace", "defaultTimeout"] with
  | [ns, timeout] =>
    return {
      defaultNamespace := ← ns.elim (some none) (Json.orNull? Json.asText?)
      defaultTimeout := ← timeout.elim (some none) (Json.orNull? (Json.asWord? millisLimit)) }
  | _ => none

def toJson (c : SocketsConfig) : Json :=
  .obj [("defaultNamespace", c.defaultNamespace.elim .null .str),
    ("defaultTimeout", c.defaultTimeout.elim .null fun t => .int t)]

end SocketsConfig

namespace ClientConfig

/-- A text that may be missing or `null`. -/
def text? : Option Document → Option (Option String)
  | none => some none
  | some d => d.fieldValue?.bind (Json.orNull? Json.asText?)

def ofDocument? (d : Document) : Option ClientConfig := do
  match ← d.slots? ["identity", "logLevel", "server", "sockets"] with
  | [identity, logLevel, some server, sockets] =>
    return {
      identity := ← text? identity
      logLevel := ← text? logLevel
      server := ← ServerConfig.ofDocument? server
      sockets := ← sockets.elim (some {}) SocketsConfig.ofDocument? }
  | _ => none

def ofText (text : String) : Except Error ClientConfig :=
  match (Document.read? text).bind ofDocument? with
  | some c => .ok c
  | none => .error .malformed

def toJson (c : ClientConfig) : Json :=
  .obj [("identity", c.identity.elim .null .str), ("logLevel", c.logLevel.elim .null .str),
    ("server", c.server.toJson), ("sockets", c.sockets.toJson)]

end ClientConfig

end LiveSession
