import LiveSession.Action.Listing
import LiveSession.Config.Basic

/-!
# Profiles

A profile is what a client knows of itself and of its server. A `ClientBuilder` collects options,
and `ClientBuilder.build` checks them: first the server, then the log level.
-/

namespace LiveSession

/-- The checked options of a client. -/
structure Profile where
  /-- The label of the session. -/
  identity : String
  level : LogLevel
  /-- Paths and namespaces are resolved against this URL. -/
  baseUrl : Url
  /-- The namespace of actions that name none. -/
  defaultNamespace : String := ""
  /-- The timeout of actions that set none. -/
  defaultTimeout : Option Span := none

/-- Options of a client that are not checked yet. -/
structure ClientBuilder where
  identity : Option String := none
  logLevel : Option String := none
  server : Option ServerConfig := none
  defaultNamespace : Option String := none
  defaultTimeout : Option Span := none

/-- The timeout where neither the action nor the profile sets one, in milliseconds. -/
def fallbackTimeout : Nat := 5000

namespace ClientBuilder

def ofConfig (c : ClientConfig) : ClientBuilder :=
  { identity := c.identity
    logLevel := c.logLevel
    server := some c.server
    defaultNamespace := c.sockets.defaultNamespace
    defaultTimeout := c.sockets.defaultTimeout.map .fixed }

def withoutServer : Error :=
  .config ("Server is required. Use .server() to set it.\n" ++
    "Example: Client::builder().server(ServerConfig::new(\"localhost\", 3000))")

/-- The profile with these options; `fresh` is the label where none is given. -/
def build (b : ClientBuilder) (fresh : String) : Except Error Profile := do
  let server ← match b.server with
    | some s => .ok s
    | none => .error withoutServer
  let baseUrl ← server.baseUrl
  let level ← LogLevel.read b.logLevel
  return {
    identity := b.identity.getD fresh
    level, baseUrl
    defaultNamespace := b.defaultNamespace.getD ""
    defaultTimeout := b.defaultTimeout }

def listing (b : ClientBuilder) : String :=
  Text.openRecord "ClientBuilder" [
    ("identity", Text.shownOption Text.quoted b.identity),
    ("log_level", Text.shownOption Text.quoted b.logLevel),
    ("server", Text.shownOption ServerConfig.listing b.server),
    ("default_namespace", Text.shownOption Text.quoted b.defaultNamespace),
    ("default_timeout", Text.shownOption Span.listing b.defaultTimeout)]

end ClientBuilder

namespace Profile

/-- The filter directive that turns logging on at the level of the profile. -/
def logDirective (p : Profile) : String :=
  "duplex_e2e=" ++ p.level.name

def listing (p : Profile) : String :=
  Text.openRecord "Client" [
    ("identity", Text.quoted p.identity),
    ("base_url", Text.quoted p.baseUrl.text),
    ("default_namespace", Text.quoted p.defaultNamespace)]

def namespaceOf (p : Profile) (ns : Option String) : String :=
  ns.getD p.defaultNamespace

/-- The timeout of an action: its own, else that of the profile, else the fallback. -/
def timeout (p : Profile) (own : Option Span) : Span :=
  (own <|> p.defaultTimeout).getD (.fixed fallbackTimeout)

def resolve (p : Profile) (path : String) : Except Error Url :=
  match p.baseUrl.join path with
  | .ok url => .ok url
  | .error fault => .error (.url fault)

end Profile

end LiveSession
