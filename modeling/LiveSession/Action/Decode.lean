import LiveSession.Action.Basic
import LiveSession.Json.Render
import LiveSession.Json.Shape

/-!
# Actions as JSON

A string is the load of that path. An object names its kind (a missing one means `get`) and has the
members of all kinds, each of its type whether the kind uses it or not. The checks come in a fixed
order: the kind, the types, then what the kind requires.
-/

namespace LiveSession

def millisLimit : Nat := Json.wordLimit

/-- The members of all kinds of actions. -/
structure ActionFields where
  path : Option String
  method : Option String
  params : List (String × Json)
  ajax : Bool
  discardResponse : Bool
  ns : Option String
  timeout : Option Nat
  connectTimeout : Option Nat
  event : Option String
  args : List Json
  extensions : Option (List String)
  cache : Option Bool
  argsEqual : Option (List Json)
  argsContain : Option Json

namespace ActionFields

/-- A member read by `read`; a missing one is `absent`. -/
def member (members : List (String × Json)) (key : String) (absent : α) (read : Json → Option α) :
    Option α :=
  match Entries.find? key members with
  | none => some absent
  | some v => read v

/-- The members of an object, each of its type; other members are ignored. -/
def ofMembers? (members : List (String × Json)) : Option ActionFields := do
  return {
    path := ← member members "path" none (Json.orNull? Json.asText?)
    method := ← member members "method" none (Json.orNull? Json.asText?)
    params := ← member members "params" [] Json.asObject?
    ajax := ← member members "ajax" false Json.asBool?
    discardResponse := ← member members "discardResponse" false Json.asBool?
    ns := ← member members "namespace" none (Json.orNull? Json.asText?)
    timeout := ← member members "timeout" none (Json.orNull? (Json.asWord? millisLimit))
    connectTimeout :=
      ← member members "connectTimeout" none (Json.orNull? (Json.asWord? millisLimit))
    event := ← member members "event" none (Json.orNull? Json.asText?)
    args := ← member members "args" [] Json.asArray?
    extensions := ← member members "extensions" none (Json.orNull? Json.asTexts?)
    cache := ← member members "cache" none (Json.orNull? Json.asBool?)
    argsEqual := ← member members "argsEqual" none (Json.orNull? Json.asArray?)
    argsContain := ← member members "argsContain" none (Json.orNull? some) }

/-- The text that a parameter value is sent as: a string itself, any other value its JSON text. -/
def paramText : Json → String
  | .str s => s
  | v => v.render

/-- The HTTP request of an action of kind `kind`, which needs a path. -/
def request (f : ActionFields) (kind : HttpKind) (method : Method) :
    Except Error RequestAction := do
  let path ← match f.path with
    | some p => .ok p
    | none => .error (.invalidArgument (kind.kind.name ++ " requires a path"))
  let method ← match f.method with
    | some m => Method.read m
    | none => .ok method
  return {
    method, path
    params := f.params.map fun p => (p.1, .fixed (paramText p.2))
    ajax := f.ajax
    discard := f.discardResponse }

/-- The event that an action of kind `kind` watches for, which has a name. -/
def watched (f : ActionFields) (kind : ActionKind) : Except Error String :=
  match f.event with
  | some e => if e.isEmpty then missing else .ok e
  | none => missing
where
  missing := .error (.invalidArgument (kind.name ++ " requires an event"))

/-- The condition on arguments: all of them equal to `argsEqual`, else one of them equal to
`argsContain`. -/
def predicate (f : ActionFields) : Except Error ArgsPredicate :=
  match f.argsEqual, f.argsContain with
  | some expected, _ => .ok fun args => Json.sameItems args expected
  | none, some wanted => .ok fun args => Json.someItemSame wanted args
  | none, none =>
    .error (.invalidArgument "confirm-no-matching-emit requires argsEqual or argsContain")

def watch (f : ActionFields) (kind : ActionKind) : Except Error WatchAction := do
  return { ns := f.ns, event := ← f.watched kind, timeout := f.timeout.map .fixed }

def connectWatch (f : ActionFields) (kind : ActionKind) : Except Error ConnectWatchAction := do
  return {
    ns := f.ns
    event := ← f.watched kind
    connectTimeout := f.connectTimeout.map .fixed
    timeout := f.timeout.map .fixed }

def action (f : ActionFields) (kind : ActionKind) : Except Error Action :=
  match kind with
  | .request => .http .request <$> f.request .request .get
  | .ajax => (fun r => .http .ajax { r with ajax := true }) <$> f.request .ajax .get
  | .get => .http .get <$> f.request .get .get
  | .post => .http .post <$> f.request .post .post
  | .pageUnload => .ok .pageUnload
  | .loadStaticAssets =>
    .ok (.loadStaticAssets { extensions := f.extensions, cache := f.cache.getD true })
  | .channelConnect => .ok (.connect { ns := f.ns, timeout := f.timeout.map .fixed })
  | .emit => .ok (.emit { ns := f.ns, args := f.args })
  | .awaitEmit => .awaitEmit <$> f.watch kind
  | .confirmNoEmit => .confirmNoEmit <$> f.watch kind
  | .confirmNoMatchingEmit => do
    let w ← f.watch kind
    return .confirmNoMatchingEmit w (← f.predicate)
  | .connectAndAwaitEmit => .connectAndAwaitEmit <$> f.connectWatch kind
  | .connectAndConfirmNoEmit => .connectAndConfirmNoEmit <$> f.connectWatch kind

end ActionFields

/-- The kind that an action object names; `get` if it names none. -/
def ActionKind.ofMembers (members : List (String × Json)) : Except Error ActionKind :=
  match Entries.find? "kind" members with
  | none | some .null => .ok .get
  | some (.str name) => ActionKind.read name
  | some other => .error (.unknownActionKind other.render)

def Action.ofJson : Json → Except Error Action
  | .str path => .ok (.get path)
  | .obj members => do
    let kind ← ActionKind.ofMembers members
    match ActionFields.ofMembers? members with
    | none => .error .malformed
    | some fields => fields.action kind
  | other =>
    .error (.invalidArgument ("action must be a path string or an object, got " ++ other.render))

end LiveSession
