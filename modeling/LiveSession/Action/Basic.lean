import LiveSession.Action.Kind
import LiveSession.Computed
import LiveSession.Http.Method

/-!
# Actions

One unit of work on a session: HTTP requests, the crawl for static assets, and the work on channels.
Timeouts that an action does not set fall back to those of the session.
-/

namespace LiveSession

/-- The four kinds of HTTP actions. `ajax` always marks its request, `get` and `post` always have
their own method; `request` is sent as it is. -/
inductive HttpKind where
  | request
  | ajax
  | get
  | post
  deriving DecidableEq, Repr

/-- An HTTP request with parameters that are evaluated when it is sent. -/
structure RequestAction where
  method : Method := .get
  /-- A path on the server, or an absolute URL. -/
  path : String
  params : List (String × Param) := []
  /-- The response becomes the ajax result and not the page. -/
  ajax : Bool := false
  /-- The response is only returned. -/
  discard : Bool := false

structure CrawlAction where
  /-- The extensions to load, without dots; a default list if there is none. -/
  extensions : Option (List String) := none
  /-- Bodies are kept in the static cache. -/
  cache : Bool := true

structure ConnectAction where
  ns : Option String := none
  timeout : Option Span := none

/-- Sending of an event: its name and then its arguments. -/
structure EmitAction where
  ns : Option String := none
  args : List Json

structure WatchAction where
  ns : Option String := none
  event : String
  timeout : Option Span := none

/-- Opening of a channel and watching for an event from the opening on. -/
structure ConnectWatchAction where
  ns : Option String := none
  event : String
  connectTimeout : Option Span := none
  timeout : Option Span := none

abbrev ArgsPredicate := List Json → Bool

inductive Action where
  | http (kind : HttpKind) (request : RequestAction)
  | pageUnload
  | loadStaticAssets (crawl : CrawlAction)
  | connect (c : ConnectAction)
  | emit (e : EmitAction)
  | awaitEmit (w : WatchAction)
  | confirmNoEmit (w : WatchAction)
  | confirmNoMatchingEmit (w : WatchAction) (accept : ArgsPredicate)
  | connectAndAwaitEmit (c : ConnectWatchAction)
  | connectAndConfirmNoEmit (c : ConnectWatchAction)

def HttpKind.kind : HttpKind → ActionKind
  | request => .request
  | ajax => .ajax
  | get => .get
  | post => .post

/-- The request that is sent: the kind forces the method or the ajax mark. -/
def HttpKind.force (kind : HttpKind) (r : RequestAction) : RequestAction :=
  match kind with
  | request => r
  | ajax => { r with ajax := true }
  | get => { r with method := .get }
  | post => { r with method := .post }

namespace Action

def kind : Action → ActionKind
  | http k _ => k.kind
  | pageUnload => .pageUnload
  | loadStaticAssets _ => .loadStaticAssets
  | connect _ => .channelConnect
  | emit _ => .emit
  | awaitEmit _ => .awaitEmit
  | confirmNoEmit _ => .confirmNoEmit
  | confirmNoMatchingEmit .. => .confirmNoMatchingEmit
  | connectAndAwaitEmit _ => .connectAndAwaitEmit
  | connectAndConfirmNoEmit _ => .connectAndConfirmNoEmit

def get (path : String) : Action := .http .get { method := .get, path }

def post (path : String) : Action := .http .post { method := .post, path }

def ajax (method : Method) (path : String) : Action :=
  .http .ajax { method, path, ajax := true }

def withTimeout (timeout : Span) : Action → Action
  | connect c => connect { c with timeout := some timeout }
  | awaitEmit w => awaitEmit { w with timeout := some timeout }
  | confirmNoEmit w => confirmNoEmit { w with timeout := some timeout }
  | confirmNoMatchingEmit w accept =>
    confirmNoMatchingEmit { w with timeout := some timeout } accept
  | connectAndAwaitEmit c => connectAndAwaitEmit { c with timeout := some timeout }
  | connectAndConfirmNoEmit c => connectAndConfirmNoEmit { c with timeout := some timeout }
  | other => other

/-- Sets the connect timeout of an action that has one. -/
def withConnectTimeout (timeout : Span) : Action → Action
  | connectAndAwaitEmit c => connectAndAwaitEmit { c with connectTimeout := some timeout }
  | connectAndConfirmNoEmit c => connectAndConfirmNoEmit { c with connectTimeout := some timeout }
  | other => other

end Action

end LiveSession
