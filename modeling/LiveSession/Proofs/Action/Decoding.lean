import LiveSession.Proofs.Action.Members

/-!
# Which documents are actions

A document is an action if it is a path, or an object that names a kind, whose known members have
their types, and that has what its kind requires. `Action.ofJson_iff` says so, with what the action
is then and what is wrong otherwise.
-/

namespace LiveSession

/-! ### Names of a vocabulary -/

theorem find?_name_eq_some {α : Type} {all : List α} {name : α → String} {a : α} {text : String}
    (listed : ∀ a, (all.find? fun b => name b == name a) = some a) :
    (all.find? fun b => name b == text) = some a ↔ text = name a := by
  constructor
  · intro found
    exact (beq_iff_eq.mp (List.find?_some (p := fun b => name b == text) found)).symm
  · rintro rfl
    exact listed a

theorem ActionKind.ofName?_eq_some {text : String} {kind : ActionKind} :
    ofName? text = some kind ↔ text = kind.name :=
  find?_name_eq_some fun kind => by cases kind <;> rfl

theorem Method.ofName?_eq_some {text : String} {method : Method} :
    ofName? text = some method ↔ Text.upper text = method.name :=
  find?_name_eq_some fun method => by cases method <;> rfl

/-! ### What a kind requires -/

namespace ActionObject

/-- The kind that an object names. -/
inductive Names (members : Entries Json) : ActionKind → Prop
  | missing (absent : members.find? "kind" = none) : Names members .get
  | null (null : members.find? "kind" = some .null) : Names members .get
  | named {kind : ActionKind} (named : members.find? "kind" = some (.str kind.name)) :
    Names members kind

/-- A method is missing, or it is one of the six, in any ASCII case. -/
def HasMethod (members : Entries Json) : Prop :=
  members.find? "method" = none ∨ members.find? "method" = some .null ∨
    ∃ text method, members.find? "method" = some (.str text) ∧ Text.upper text = Method.name method

def HasEvent (members : Entries Json) : Prop :=
  ∃ event, members.find? "event" = some (.str event) ∧ event ≠ ""

def HasCondition (members : Entries Json) : Prop :=
  Given members "argsEqual" ∨ Given members "argsContain"

def Suffices (members : Entries Json) : ActionKind → Prop
  | .request | .ajax | .get | .post => Given members "path" ∧ HasMethod members
  | .awaitEmit | .confirmNoEmit | .connectAndAwaitEmit | .connectAndConfirmNoEmit =>
    HasEvent members
  | .confirmNoMatchingEmit => HasEvent members ∧ HasCondition members
  | .pageUnload | .loadStaticAssets | .channelConnect | .emit => True

/-! ### What the members say -/

/-- The method of a request: that of its name, or `absent` if it names none. -/
def IsMethod (members : Entries Json) (absent method : Method) : Prop :=
  match content? members .text "method" with
  | some text => Text.upper text = method.name
  | none => method = absent

/-- The members of a request, which counts as an ajax call if one of them or its kind says so. -/
structure Requests (members : Entries Json) (absent : Method) (ajax : Bool) (r : RequestAction) :
    Prop where
  path : content? members .text "path" = some r.path
  method : IsMethod members absent r.method
  params : r.params = ((content? members .object "params").getD []).map fun p =>
    (p.1, .fixed (ActionFields.paramText p.2))
  ajax : r.ajax = ((content? members .flag "ajax").getD false || ajax)
  discard : r.discard = (content? members .flag "discardResponse").getD false

structure Watches (members : Entries Json) (ns : Option String) (event : String)
    (timeout : Option Span) : Prop where
  ns : ns = content? members .text "namespace"
  event : content? members .text "event" = some event
  timeout : timeout = (content? members .millis "timeout").map .fixed

/-- What arguments meet the condition: those that equal `argsEqual`, and if there is none, those
that have `argsContain` among them. -/
def IsCondition (members : Entries Json) (accept : ArgsPredicate) : Prop :=
  match content? members .array "argsEqual" with
  | some expected => ∀ args, accept args = Json.sameItems args expected
  | none => ∃ wanted, content? members .any "argsContain" = some wanted ∧
      ∀ args, accept args = Json.someItemSame wanted args

/-- The members of an object say all about an action of its kind. -/
def Describes (members : Entries Json) : Action → Prop
  | .http kind r => Requests members (if kind = .post then .post else .get) (kind = .ajax) r
  | .pageUnload => True
  | .loadStaticAssets c =>
    c.extensions = content? members .texts "extensions" ∧
      c.cache = (content? members .flag "cache").getD true
  | .connect c =>
    c.ns = content? members .text "namespace" ∧
      c.timeout = (content? members .millis "timeout").map .fixed
  | .emit e =>
    e.ns = content? members .text "namespace" ∧
      e.args = (content? members .array "args").getD []
  | .awaitEmit w | .confirmNoEmit w => Watches members w.ns w.event w.timeout
  | .confirmNoMatchingEmit w accept =>
    Watches members w.ns w.event w.timeout ∧ IsCondition members accept
  | .connectAndAwaitEmit c | .connectAndConfirmNoEmit c =>
    Watches members c.ns c.event c.timeout ∧
      c.connectTimeout = (content? members .millis "connectTimeout").map .fixed

/-- What an object misses that its kind requires, in words. The path is missed before the method and
the event before the condition. -/
inductive Misses (members : Entries Json) (kind : ActionKind) : String → Prop
  | path (missing : ¬ Given members "path") : Misses members kind (kind.name ++ " requires a path")
  | method {text : String} (path : Given members "path")
    (named : members.find? "method" = some (.str text))
    (unknown : ∀ method, Text.upper text ≠ Method.name method) :
    Misses members kind ("unsupported HTTP method: " ++ Text.upper text)
  | event (missing : ¬ HasEvent members) : Misses members kind (kind.name ++ " requires an event")
  | condition (event : HasEvent members) (missing : ¬ HasCondition members) :
    Misses members kind "confirm-no-matching-emit requires argsEqual or argsContain"

end ActionObject

namespace Json

open ActionObject

def IsAction (v : Json) : Prop :=
  (∃ path, v = .str path) ∨
    ∃ members kind, v = .obj members ∧ Names members kind ∧ WellTyped members ∧
      Suffices members kind

/-- The action that a document is: the load of a path, or what the members of an object say. -/
def Denotes : Json → Action → Prop
  | .str path, a => a = .get path
  | .obj members, a => Names members a.kind ∧ Describes members a
  | _, _ => False

/-- What is wrong with a document that is no action; what comes first counts. -/
inductive Refused : Json → Error → Prop
  | shape {v : Json} (text : ∀ path, v ≠ .str path) (object : ∀ members, v ≠ .obj members) :
    Refused v (.invalidArgument ("action must be a path string or an object, got " ++ v.render))
  | kind {members : Entries Json} {v : Json} (unnamed : ∀ kind, ¬ Names members kind)
    (found : members.find? "kind" = some v) :
    Refused (.obj members) (.unknownActionKind (ActionFields.paramText v))
  | type {members : Entries Json} {kind : ActionKind} (named : Names members kind)
    (untyped : ¬ WellTyped members) : Refused (.obj members) .malformed
  | lack {members : Entries Json} {kind : ActionKind} {message : String}
    (named : Names members kind) (typed : WellTyped members) (lacks : ¬ Suffices members kind)
    (misses : Misses members kind message) : Refused (.obj members) (.invalidArgument message)

end Json

variable {members : Entries Json} {kind : ActionKind}

namespace ActionObject

/-! ### Reading for a kind -/

/-- A result is given if what is needed is there, and otherwise what is missed is told. -/
def Settled (needs : Prop) (means : α → Prop) (misses : String → Prop) : Except Error α → Prop
  | .ok a => needs ∧ means a
  | .error e => ¬ needs ∧ ∃ message, e = .invalidArgument message ∧ misses message

variable {needs needs' : Prop} {means : α → Prop} {means' : β → Prop} {misses : String → Prop}
  {x : Except Error α}

theorem Settled.bind {f : α → Except Error β} (settled : Settled needs means misses x)
    (both : needs' → needs) (after : ∀ a, needs → means a → Settled needs' means' misses (f a)) :
    Settled needs' means' misses (x >>= f) := by
  cases x with
  | ok a => exact after a settled.1 settled.2
  | error e => exact ⟨fun all => settled.1 (both all), settled.2⟩

theorem Settled.map {f : α → β} (settled : Settled needs means misses x)
    (maps : ∀ a, means a → means' (f a)) : Settled needs means' misses (f <$> x) := by
  cases x with
  | ok a => exact ⟨settled.1, maps a settled.2⟩
  | error e => exact settled

theorem settled_request (typed : WellTyped members) (kind : HttpKind) (absent : Method) :
    Settled (Given members "path" ∧ HasMethod members) (Requests members absent false)
      (Misses members kind.kind) ((fields members).request kind absent) := by
  have path_iff := given_iff typed MemberType.isRead_text "path" (by decide)
  cases path : content? members .text "path" with
  | none =>
    have missing : ¬ Given members "path" := fun given => by
      obtain ⟨_, there⟩ := path_iff.mp given
      exact nomatch path.symm.trans there
    simp only [ActionFields.request, fields, path]
    exact ⟨fun both => missing both.1, _, rfl, .path missing⟩
  | some p =>
    have given : Given members "path" := path_iff.mpr ⟨p, path⟩
    cases named : content? members .text "method" with
    | none =>
      have has : HasMethod members := by
        cases found : members.find? "method" with
        | none => exact .inl found
        | some v =>
          rcases typed ⟨"method", .text, true⟩ (by decide) v found with ⟨s, rfl⟩ | ⟨_, rfl⟩
          · exact nomatch named.symm.trans (content?_text.mpr found)
          · exact .inr (.inl found)
      simp only [ActionFields.request, fields, path, named]
      refine ⟨⟨given, has⟩, path, ?_, rfl, (Bool.or_false _).symm, rfl⟩
      rw [IsMethod, named]
    | some text =>
      have found := content?_text.mp named
      simp only [ActionFields.request, fields, path, named, Method.read]
      cases read : Method.ofName? text with
      | some method =>
        have is := Method.ofName?_eq_some.mp read
        refine ⟨⟨given, .inr (.inr ⟨text, method, found, is⟩)⟩, path, ?_, rfl,
          (Bool.or_false _).symm, rfl⟩
        rw [IsMethod, named]
        exact is
      | none =>
        have unknown (method : Method) : Text.upper text ≠ method.name := fun is =>
          nomatch read.symm.trans (Method.ofName?_eq_some.mpr is)
        refine ⟨fun both => ?_, _, rfl, .method given found unknown⟩
        rcases both.2 with none | null | ⟨text', method, found', is⟩
        · exact nomatch found.symm.trans none
        · exact nomatch found.symm.trans null
        · cases found.symm.trans found'
          exact unknown method is

theorem settled_watched (members : Entries Json) (kind : ActionKind) :
    Settled (HasEvent members) (fun event => content? members .text "event" = some event)
      (Misses members kind) ((fields members).watched kind) := by
  have refused (missing : ¬ HasEvent members) :
      Settled (HasEvent members) (fun event => content? members .text "event" = some event)
        (Misses members kind) (ActionFields.watched.missing kind) :=
    ⟨missing, _, rfl, .event missing⟩
  unfold ActionFields.watched
  cases event : (fields members).event with
  | none =>
    refine refused fun ⟨e, found, _⟩ => ?_
    exact nomatch event.symm.trans (content?_text.mpr found)
  | some e =>
    have found := content?_text.mp event
    dsimp only
    split
    · rename_i empty
      refine refused fun ⟨e', found', solid⟩ => solid ?_
      cases found.symm.trans found'
      exact String.isEmpty_iff.mp empty
    · rename_i solid
      exact ⟨⟨e, found, fun empty => solid (String.isEmpty_iff.mpr empty)⟩, event⟩

theorem settled_watch (members : Entries Json) (kind : ActionKind) :
    Settled (HasEvent members) (fun w : WatchAction => Watches members w.ns w.event w.timeout)
      (Misses members kind) ((fields members).watch kind) :=
  (settled_watched members kind).bind (fun has => has) fun _ has event => ⟨has, rfl, event, rfl⟩

theorem settled_connectWatch (members : Entries Json) (kind : ActionKind) :
    Settled (HasEvent members)
      (fun c : ConnectWatchAction => Watches members c.ns c.event c.timeout ∧
        c.connectTimeout = (content? members .millis "connectTimeout").map .fixed)
      (Misses members kind) ((fields members).connectWatch kind) :=
  (settled_watched members kind).bind (fun has => has) fun _ has event =>
    ⟨has, ⟨rfl, event, rfl⟩, rfl⟩

theorem settled_predicate (typed : WellTyped members) (event : HasEvent members) :
    Settled (HasCondition members) (IsCondition members) (Misses members .confirmNoMatchingEmit)
      (fields members).predicate := by
  have equal_iff := given_iff typed MemberType.isRead_array "argsEqual" (by decide)
  have contain_iff := given_iff typed MemberType.isRead_any "argsContain" (by decide)
  cases equal : content? members .array "argsEqual" with
  | some expected =>
    simp only [ActionFields.predicate, fields, equal]
    refine ⟨.inl (equal_iff.mpr ⟨_, equal⟩), ?_⟩
    rw [IsCondition, equal]
    exact fun _ => rfl
  | none =>
    cases contain : content? members .any "argsContain" with
    | some wanted =>
      simp only [ActionFields.predicate, fields, equal, contain]
      refine ⟨.inr (contain_iff.mpr ⟨_, contain⟩), ?_⟩
      rw [IsCondition, equal]
      exact ⟨wanted, contain, fun _ => rfl⟩
    | none =>
      have missing : ¬ HasCondition members := by
        rintro (given | given)
        · obtain ⟨_, there⟩ := equal_iff.mp given
          exact nomatch equal.symm.trans there
        · obtain ⟨_, there⟩ := contain_iff.mp given
          exact nomatch contain.symm.trans there
      simp only [ActionFields.predicate, fields, equal, contain]
      exact ⟨missing, _, rfl, .condition event missing⟩

theorem settled_action (typed : WellTyped members) (kind : ActionKind) :
    Settled (Suffices members kind) (fun a => a.kind = kind ∧ Describes members a)
      (Misses members kind) ((fields members).action kind) := by
  have http (k : HttpKind) (absent : Method) := settled_request typed k absent
  cases kind with
  | request => exact (http .request .get).map fun r means => ⟨rfl, means⟩
  | get => exact (http .get .get).map fun r means => ⟨rfl, means⟩
  | post => exact (http .post .post).map fun r means => ⟨rfl, means⟩
  | ajax =>
    refine (http .ajax .get).map fun r means => ⟨rfl, ?_⟩
    exact { means with ajax := (Bool.or_true _).symm }
  | pageUnload => exact ⟨trivial, rfl, trivial⟩
  | loadStaticAssets => exact ⟨trivial, rfl, rfl, rfl⟩
  | channelConnect => exact ⟨trivial, rfl, rfl, rfl⟩
  | emit => exact ⟨trivial, rfl, rfl, rfl⟩
  | awaitEmit => exact (settled_watch members _).map fun w means => ⟨rfl, means⟩
  | confirmNoEmit => exact (settled_watch members _).map fun w means => ⟨rfl, means⟩
  | connectAndAwaitEmit => exact (settled_connectWatch members _).map fun c means => ⟨rfl, means⟩
  | connectAndConfirmNoEmit =>
    exact (settled_connectWatch members _).map fun c means => ⟨rfl, means⟩
  | confirmNoMatchingEmit =>
    refine (settled_watch members _).bind And.left fun w event watches => ?_
    refine (settled_predicate typed event).bind And.right fun accept has is => ?_
    exact ⟨⟨event, has⟩, rfl, watches, is⟩

/-! ### Kinds -/

theorem Names.find? (names : Names members kind) :
    kind = .get ∧ (members.find? "kind" = none ∨ members.find? "kind" = some .null) ∨
      members.find? "kind" = some (.str kind.name) := by
  cases names with
  | missing absent => exact .inl ⟨rfl, .inl absent⟩
  | null null => exact .inl ⟨rfl, .inr null⟩
  | named named => exact .inr named

theorem Names.unique {kind' : ActionKind} (names : Names members kind)
    (names' : Names members kind') : kind = kind' := by
  rcases names.find? with ⟨rfl, missing⟩ | named <;> rcases names'.find? with ⟨rfl, missing'⟩ | named'
  · rfl
  · rcases missing with missing | missing <;> exact nomatch missing.symm.trans named'
  · rcases missing' with missing | missing <;> exact nomatch missing.symm.trans named
  · have same := Json.str.inj (Option.some.inj (named.symm.trans named'))
    have first := ActionKind.ofName?_eq_some.mpr (rfl : kind.name = kind.name)
    exact Option.some.inj (first.symm.trans (ActionKind.ofName?_eq_some.mpr same))

theorem ofMembers_cases (members : Entries Json) :
    (∃ kind, ActionKind.ofMembers members = .ok kind ∧ Names members kind) ∨
      ∃ v, members.find? "kind" = some v ∧ (∀ kind, ¬ Names members kind) ∧
        ActionKind.ofMembers members = .error (.unknownActionKind (ActionFields.paramText v)) := by
  have unnamed (v : Json) (found : members.find? "kind" = some v) (solid : v ≠ .null)
      (other : ∀ kind : ActionKind, v ≠ .str kind.name) (kind : ActionKind) :
      ¬ Names members kind := fun names => by
    rcases names.find? with ⟨_, missing | null⟩ | named
    · exact nomatch found.symm.trans missing
    · exact solid (Option.some.inj (found.symm.trans null))
    · exact other kind (Option.some.inj (found.symm.trans named))
  unfold ActionKind.ofMembers
  cases found : members.find? "kind" with
  | none => exact .inl ⟨_, rfl, .missing found⟩
  | some v =>
    cases v with
    | null => exact .inl ⟨_, rfl, .null found⟩
    | str name =>
      dsimp only [ActionKind.read]
      cases read : ActionKind.ofName? name with
      | some kind =>
        rw [ActionKind.ofName?_eq_some.mp read] at found
        exact .inl ⟨kind, rfl, .named found⟩
      | none =>
        refine .inr ⟨_, rfl, unnamed _ found nofun fun kind same => ?_, rfl⟩
        have is := ActionKind.ofName?_eq_some.mpr (Json.str.inj same)
        exact nomatch read.symm.trans is
    | _ => exact .inr ⟨_, rfl, unnamed _ found nofun nofun, rfl⟩

end ActionObject

/-! ### Documents -/

namespace Action

open ActionObject

/-- Decoding of an object, in the order of its checks. -/
theorem ofJson_obj_cases (members : Entries Json) :
    (∃ a, ofJson (.obj members) = .ok a ∧ Json.IsAction (.obj members) ∧
        Json.Denotes (.obj members) a) ∨
      ∃ e, ofJson (.obj members) = .error e ∧ ¬ Json.IsAction (.obj members) ∧
        Json.Refused (.obj members) e := by
  rcases ofMembers_cases members with ⟨kind, read, names⟩ | ⟨v, found, unnamed, read⟩
  · by_cases typed : WellTyped members
    · have decoded : ofJson (.obj members) = (fields members).action kind := by
        simp only [ofJson, read, ofMembers?_of_wellTyped typed]
        rfl
      have settled := settled_action typed kind
      rw [decoded]
      cases result : (fields members).action kind with
      | ok a =>
        rw [result] at settled
        obtain ⟨suffices_, same, describes⟩ := settled
        exact .inl ⟨a, rfl, .inr ⟨members, kind, rfl, names, typed, suffices_⟩, same ▸ names, describes⟩
      | error e =>
        rw [result] at settled
        obtain ⟨lacks, message, rfl, misses⟩ := settled
        refine .inr ⟨_, rfl, ?_, .lack names typed lacks misses⟩
        rintro (⟨_, same⟩ | ⟨_, _, same, names', _, suffices_⟩)
        · cases same
        · cases same
          exact lacks (names.unique names' ▸ suffices_)
    · have refused : ofJson (.obj members) = .error .malformed := by
        cases fields : ActionFields.ofMembers? members with
        | some f => exact absurd (wellTyped_of_ofMembers? fields) typed
        | none =>
          simp only [ofJson, read, fields]
          rfl
      refine .inr ⟨_, refused, ?_, .type names typed⟩
      rintro (⟨_, same⟩ | ⟨_, _, same, _, typed', _⟩)
      · cases same
      · cases same
        exact typed typed'
  · have refused : ofJson (.obj members) =
        .error (.unknownActionKind (ActionFields.paramText v)) := by
      simp only [ofJson, read]
      rfl
    refine .inr ⟨_, refused, ?_, .kind unnamed found⟩
    rintro (⟨_, same⟩ | ⟨_, kind, same, names, _⟩)
    · cases same
    · cases same
      exact unnamed kind names

theorem ofJson_cases (v : Json) :
    (∃ a, ofJson v = .ok a ∧ v.IsAction ∧ v.Denotes a) ∨
      ∃ e, ofJson v = .error e ∧ ¬ v.IsAction ∧ v.Refused e := by
  have other (text : ∀ path, v ≠ .str path) (object : ∀ members, v ≠ .obj members) :
      ¬ v.IsAction := by
    rintro (⟨path, same⟩ | ⟨members, _, same, _⟩)
    · exact text path same
    · exact object members same
  cases v with
  | str path => exact .inl ⟨_, rfl, .inl ⟨path, rfl⟩, rfl⟩
  | obj members => exact ofJson_obj_cases members
  | _ => exact .inr ⟨_, rfl, other nofun nofun, .shape nofun nofun⟩

/-- A document is decoded exactly if it is an action, to the action that it denotes; any other is
refused for the first thing that is wrong with it. -/
theorem ofJson_iff (v : Json) :
    ((∃ a, ofJson v = .ok a) ↔ v.IsAction) ∧
      (∀ a, ofJson v = .ok a → v.Denotes a) ∧ ∀ e, ofJson v = .error e → v.Refused e := by
  rcases ofJson_cases v with ⟨a, decoded, is, denotes⟩ | ⟨e, refused, isnt, why⟩
  · rw [decoded]
    refine ⟨⟨fun _ => is, fun _ => ⟨a, rfl⟩⟩, fun a' same => ?_, nofun⟩
    cases same
    exact denotes
  · rw [refused]
    refine ⟨⟨nofun, fun is => absurd is isnt⟩, nofun, fun e' same => ?_⟩
    cases same
    exact why

/-- The wait for an event, and the same without its event. -/
theorem ofJson_iff_of_event :
    let joined : Json :=
      .obj [("kind", .str "await-emit"), ("event", .str "joined"), ("timeout", .int 500)]
    let nameless : Json := .obj [("kind", .str "await-emit"), ("timeout", .int 500)]
    joined.IsAction ∧ (∃ a, ofJson joined = .ok a ∧ joined.Denotes a) ∧
      ¬ nameless.IsAction ∧
      nameless.Refused (.invalidArgument "await-emit requires an event") := by
  intro joined nameless
  have waits : ofJson joined =
      .ok (.awaitEmit { event := "joined", timeout := some (.fixed 500) }) := by rfl
  have refused : ofJson nameless = .error (.invalidArgument "await-emit requires an event") := by rfl
  refine ⟨(ofJson_iff joined).1.mp ⟨_, waits⟩, ⟨_, waits, (ofJson_iff joined).2.1 _ waits⟩, ?_,
    (ofJson_iff nameless).2.2 _ refused⟩
  intro is
  obtain ⟨a, decoded⟩ := (ofJson_iff nameless).1.mpr is
  exact nomatch refused.symm.trans decoded

end Action

end LiveSession
