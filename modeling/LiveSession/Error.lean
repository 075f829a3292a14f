import LiveSession.Session.Event
import LiveSession.Text.Quoted
import LiveSession.Url.Fault

/-!
# Errors

Everything that can go wrong, with the context that a message needs. `Error.message` is the wording;
three predicates sort errors into timeouts, unmet preconditions and failures of a transport.
-/

namespace LiveSession

inductive Error where
  | config (message : String)
  | invalidArgument (message : String)
  | unknownActionKind (kind : String)
  | noPageLoaded (action : String)
  | noSuchChannel (ns : String)
  | transportUnavailable (path message : String)
  | http (message : String)
  | connectTimeout (ns : String) (limit : Nat)
  | connectFailed (ns message : String)
  | connection (message : String)
  | connectionClosed
  | protocol (message : String)
  | awaitTimeout (event ns : String) (limit : Nat)
  | unexpectedEmit (event : SocketEvent)
  | scriptAlreadyRunning (name : String)
  | invalidScript (message : String)
  | io (message : String)
  | json (message : String)
  | webSocket (message : String)
  | url (fault : Url.Fault)
  deriving Inhabited

namespace Error

def message : Error → String
  | config m => "Configuration error: " ++ m
  | invalidArgument m => "Invalid argument: " ++ m
  | unknownActionKind kind => "Unknown action kind: " ++ kind
  | noPageLoaded action => "No page loaded: " ++ action ++ " requires a current page"
  | noSuchChannel ns => "No such channel: namespace=" ++ Text.quoted ns
  | transportUnavailable path m => "Transport unavailable for " ++ path ++ ": " ++ m
  | http m => "HTTP error: " ++ m
  | connectTimeout ns limit =>
    "Connect timeout after " ++ toString limit ++ "ms: namespace=" ++ Text.quoted ns
  | connectFailed ns m => "Connect failed: namespace=" ++ Text.quoted ns ++ ": " ++ m
  | connection m => "Connection failed: " ++ m
  | connectionClosed => "Connection closed"
  | protocol m => "Protocol error: " ++ m
  | awaitTimeout event ns limit =>
    "Timeout after " ++ toString limit ++ "ms awaiting " ++ Text.quoted event ++
      " on namespace=" ++ Text.quoted ns
  | unexpectedEmit e =>
    "Unexpected emit " ++ Text.quoted e.name ++ " on namespace=" ++ Text.quoted e.ns
  | scriptAlreadyRunning name => "Script already running: " ++ name
  | invalidScript m => "Invalid script: " ++ m
  | io m => "IO error: " ++ m
  | json m => "JSON error: " ++ m
  | webSocket m => "WebSocket error: " ++ m
  | url fault => "URL error: " ++ fault.message

def isTimeout : Error → Bool
  | connectTimeout .. | awaitTimeout .. => true
  | _ => false

/-- Something was missing before the session was touched. -/
def isPrecondition : Error → Bool
  | noPageLoaded .. | noSuchChannel .. => true
  | _ => false

def isTransport : Error → Bool
  | transportUnavailable .. | http .. | connection .. | connectionClosed | webSocket .. => true
  | _ => false

/-- A JSON text could not be read or does not have the form that is wanted. -/
def malformed : Error := .json "malformed document"

end Error

end LiveSession
