import LiveSession.Action.Basic
import LiveSession.Json.Render
import LiveSession.Text.Listing

/-!
# Listings of actions

The text of an action as it stands in log lines: its record with all fields.
-/

namespace LiveSession

open Text

/-- A value that is fixed, or the mark of a computed one. -/
def Computed.listing (f : α → String) : Computed α → String
  | .fixed v => tupled "Fixed" [f v]
  | .drawn _ => "With(<fn>)"

def Span.listing (s : Span) : String :=
  Computed.listing shownMillis s

def Method.listing : Method → String
  | get => "Get"
  | post => "Post"
  | put => "Put"
  | patch => "Patch"
  | delete => "Delete"
  | head => "Head"

mutual

def Json.listing : Json → String
  | .null => "Null"
  | .bool b => tupled "Bool" [shownBool b]
  | .int n => tupled "Number" [toString n]
  | .float x => tupled "Number" [x.text]
  | .str s => tupled "String" [quoted s]
  | .arr items => "Array " ++ Text.listing (Json.listingItems items)
  | .obj members => "Object \x7b" ++ join ", " (Json.listingMembers members) ++ "\x7d"

def Json.listingItems : List Json → List String
  | [] => []
  | v :: rest => v.listing :: Json.listingItems rest

def Json.listingMembers : List (String × Json) → List String
  | [] => []
  | (key, v) :: rest => (quoted key ++ ": " ++ v.listing) :: Json.listingMembers rest

end

def HttpKind.listing : HttpKind → String
  | request => "Request"
  | ajax => "Ajax"
  | get => "Get"
  | post => "Post"

namespace Action

def requestListing (r : RequestAction) : String :=
  record "HttpAction" [
    ("method", r.method.listing),
    ("path", quoted r.path),
    ("params", Text.listing (r.params.map fun p => tupled "" [quoted p.1, p.2.listing quoted])),
    ("ajax", shownBool r.ajax),
    ("discard_response", shownBool r.discard)]

def watchFields (w : WatchAction) : List (String × String) :=
  [("namespace", shownOption quoted w.ns), ("event", quoted w.event),
    ("timeout", shownOption Span.listing w.timeout)]

def connectWatchListing (c : ConnectWatchAction) : String :=
  record "ConnectAwaitAction" [
    ("namespace", shownOption quoted c.ns),
    ("event", quoted c.event),
    ("connect_timeout", shownOption Span.listing c.connectTimeout),
    ("timeout", shownOption Span.listing c.timeout)]

/-- The listing of an action. A predicate has none and is left out. -/
def listing : Action → String
  | http k r => tupled k.listing [requestListing r]
  | pageUnload => "PageUnload"
  | loadStaticAssets c =>
    tupled "LoadStaticAssets" [record "StaticAssetsAction" [
      ("extensions", shownOption (fun xs => Text.listing (xs.map quoted)) c.extensions),
      ("cache", shownBool c.cache)]]
  | connect c =>
    tupled "Connect" [record "ConnectAction" [
      ("namespace", shownOption quoted c.ns), ("timeout", shownOption Span.listing c.timeout)]]
  | emit e =>
    tupled "Emit" [record "EmitAction" [
      ("namespace", shownOption quoted e.ns), ("args", Text.listing (Json.listingItems e.args))]]
  | awaitEmit w => tupled "AwaitEmit" [record "AwaitAction" (watchFields w)]
  | confirmNoEmit w => tupled "ConfirmNoEmit" [record "AwaitAction" (watchFields w)]
  | confirmNoMatchingEmit w _ =>
    tupled "ConfirmNoMatchingEmit" [openRecord "MatchAction" (watchFields w)]
  | connectAndAwaitEmit c => tupled "ConnectAndAwaitEmit" [connectWatchListing c]
  | connectAndConfirmNoEmit c => tupled "ConnectAndConfirmNoEmit" [connectWatchListing c]

end Action

end LiveSession
