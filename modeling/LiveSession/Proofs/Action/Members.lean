import LiveSession.Action.Decode
import LiveSession.Proofs.Json.Shape

/-!
# The members of an action object

An action object may have fourteen members, each of a type. It may hold `null` for most of them, which
is the same as not having them, and other members mean nothing. `ofMembers?_of_wellTyped` says what is
read from an object whose members have their types, and nothing is read from any other.
-/

namespace LiveSession

/-! ### The members of an object -/

inductive MemberType where
  | text
  | flag
  | millis
  | array
  | object
  | texts
  | any
  deriving DecidableEq

namespace MemberType

def Has : MemberType → Json → Prop
  | text, v => ∃ s, v = .str s
  | flag, v => ∃ b, v = .bool b
  | millis, v => ∃ n < Json.wordLimit, v = .int n
  | array, v => ∃ items, v = .arr items
  | object, v => ∃ members, v = .obj members
  | texts, v => ∃ items : List String, v = .arr (items.map .str)
  | any, _ => True

abbrev Content : MemberType → Type
  | text => String
  | flag => Bool
  | millis => Nat
  | array => List Json
  | object => Entries Json
  | texts => List String
  | any => Json

/-- What a value of a type holds; `null` holds nothing. -/
def content? : (type : MemberType) → Json → Option type.Content
  | text, .str s => some s
  | flag, .bool b => some b
  | millis, .int n => some n.toNat
  | array, .arr items => some items
  | object, .obj members => some members
  | texts, .arr items => some (items.filterMap Json.asText?)
  | any, .null => none
  | any, v => some v
  | _, _ => none

end MemberType

structure MemberRule where
  key : String
  type : MemberType
  /-- `null` stands for a missing member. -/
  nullable : Bool
  deriving DecidableEq

def MemberRule.Allows (rule : MemberRule) (v : Json) : Prop :=
  rule.type.Has v ∨ rule.nullable = true ∧ v = .null

namespace ActionObject

/-- The members that some rules are about have their types. -/
def Obeys (members : Entries Json) (rules : List MemberRule) : Prop :=
  ∀ rule ∈ rules, ∀ v, members.find? rule.key = some v → rule.Allows v

/-- The members that an action object may have; it may have others, which mean nothing. -/
def rules : List MemberRule :=
  [⟨"path", .text, true⟩, ⟨"method", .text, true⟩, ⟨"params", .object, false⟩,
    ⟨"ajax", .flag, false⟩, ⟨"discardResponse", .flag, false⟩, ⟨"namespace", .text, true⟩,
    ⟨"timeout", .millis, true⟩, ⟨"connectTimeout", .millis, true⟩, ⟨"event", .text, true⟩,
    ⟨"args", .array, false⟩, ⟨"extensions", .texts, true⟩, ⟨"cache", .flag, true⟩,
    ⟨"argsEqual", .array, true⟩, ⟨"argsContain", .any, true⟩]

/-- Every member has its type, whether the kind uses it or not. -/
def WellTyped (members : Entries Json) : Prop :=
  Obeys members rules

/-- A member is there and is not `null`. -/
def Given (members : Entries Json) (key : String) : Prop :=
  ∃ v, members.find? key = some v ∧ v ≠ .null

/-- What a member holds; nothing if it is missing or `null`. -/
def content? (members : Entries Json) (type : MemberType) (key : String) : Option type.Content :=
  (members.find? key).bind type.content?

end ActionObject

/-! ### Reading of members -/

namespace MemberType

/-- `read` takes the values of a type and no others, and gives what they hold. -/
structure IsRead (type : MemberType) (read : Json → Option type.Content) : Prop where
  taken : ∀ {v}, type.Has v → v = .null ∨ ∃ x, read v = some x ∧ type.content? v = some x
  has : ∀ {v x}, read v = some x → type.Has v

theorem content?_null (type : MemberType) : type.content? .null = none := by
  cases type <;> rfl

theorem not_has_null {type : MemberType} (solid : type ≠ .any) : ¬ type.Has .null := by
  cases type with
  | any => exact absurd rfl solid
  | millis => exact fun ⟨_, _, same⟩ => nomatch same
  | _ => exact fun ⟨_, same⟩ => nomatch same

theorem isRead_of_wrap {type : MemberType} {read : Json → Option type.Content}
    (wrap : type.Content → Json) (has : ∀ {v}, type.Has v ↔ ∃ x, v = wrap x)
    (reads : ∀ {v x}, read v = some x ↔ v = wrap x)
    (holds : ∀ x, type.content? (wrap x) = some x) : type.IsRead read where
  taken := fun typed => by
    obtain ⟨x, rfl⟩ := has.mp typed
    exact .inr ⟨x, reads.mpr rfl, holds x⟩
  has := fun {_ x} read => has.mpr ⟨x, reads.mp read⟩

theorem isRead_text : text.IsRead Json.asText? :=
  isRead_of_wrap .str Iff.rfl Json.asText?_eq_some fun _ => rfl

theorem isRead_flag : flag.IsRead Json.asBool? :=
  isRead_of_wrap .bool Iff.rfl Json.asBool?_eq_some fun _ => rfl

theorem isRead_array : array.IsRead Json.asArray? :=
  isRead_of_wrap .arr Iff.rfl Json.asArray?_eq_some fun _ => rfl

theorem isRead_object : object.IsRead Json.asObject? :=
  isRead_of_wrap .obj Iff.rfl Json.asObject?_eq_some fun _ => rfl

theorem isRead_texts : texts.IsRead Json.asTexts? :=
  isRead_of_wrap (fun items : List String => .arr (items.map .str)) Iff.rfl
    Json.asTexts?_eq_some fun items => by
      refine congrArg some ?_
      rw [List.filterMap_map]
      exact List.filterMap_some

theorem isRead_millis : millis.IsRead (Json.asWord? millisLimit) where
  taken := by
    rintro _ ⟨n, below, rfl⟩
    exact .inr ⟨n, Json.asWord?_eq_some.mpr ⟨below, rfl⟩, rfl⟩
  has := fun {_ x} read => ⟨x, Json.asWord?_eq_some.mp read⟩

theorem isRead_any : any.IsRead some where
  taken := fun {v} _ => by
    cases v with
    | null => exact .inl rfl
    | _ => exact .inr ⟨_, rfl, rfl⟩
  has := fun _ => trivial

end MemberType

namespace ActionObject

open ActionFields (member ofMembers?)
open Json (orNull?)

variable {members : Entries Json} {key : String} {v : Json} {type : MemberType}
  {read : Json → Option type.Content}

theorem content?_of_find? (found : members.find? key = some v) :
    content? members type key = type.content? v := by
  rw [content?, found, Option.bind_some]

theorem content?_of_missing (missing : members.find? key = none) :
    content? members type key = none := by
  rw [content?, missing, Option.bind_none]

theorem content?_of_null (null : members.find? key = some .null) :
    content? members type key = none := by
  rw [content?_of_find? null, type.content?_null]

theorem member_missing {absent : α} {read : Json → Option α} (missing : members.find? key = none) :
    member members key absent read = some absent := by
  rw [member, missing]

theorem member_of_find? {absent : α} {read : Json → Option α} (found : members.find? key = some v) :
    member members key absent read = read v := by
  rw [member, found]

theorem member_nullable (typed : WellTyped members) (isRead : type.IsRead read) (key : String)
    (listed : ⟨key, type, true⟩ ∈ rules) :
    member members key none (orNull? read) = some (content? members type key) := by
  cases found : members.find? key with
  | none => rw [member_missing found, content?_of_missing found]
  | some v =>
    rw [member_of_find? found]
    by_cases null : v = .null
    · subst null
      rw [content?_of_null found]
      rfl
    · have has := (typed _ listed v found).resolve_right fun both => null both.2
      obtain ⟨x, taken, content⟩ := (isRead.taken has).resolve_left null
      rw [content?_of_find? found, content]
      exact Json.orNull?_eq_some.mpr (.inr ⟨null, x, taken, rfl⟩)

theorem member_plain (typed : WellTyped members) (isRead : type.IsRead read) (solid : type ≠ .any)
    (key : String) (listed : ⟨key, type, false⟩ ∈ rules) (absent : type.Content) :
    member members key absent read = some ((content? members type key).getD absent) := by
  cases found : members.find? key with
  | none => rw [member_missing found, content?_of_missing found, Option.getD_none]
  | some v =>
    have has := (typed _ listed v found).resolve_right fun both => nomatch both.1
    obtain ⟨x, taken, content⟩ := (isRead.taken has).resolve_left fun null =>
      MemberType.not_has_null solid (null ▸ has)
    rw [member_of_find? found, taken, content?_of_find? found, content, Option.getD_some]

theorem allows_of_nullable {x : Option type.Content} (isRead : type.IsRead read)
    (taken : member members key none (orNull? read) = some x) (found : members.find? key = some v) :
    MemberRule.Allows ⟨key, type, true⟩ v := by
  rw [member_of_find? found] at taken
  rcases Json.orNull?_eq_some.mp taken with ⟨null, _⟩ | ⟨_, y, taken, _⟩
  · exact .inr ⟨rfl, null⟩
  · exact .inl (isRead.has taken)

theorem allows_of_plain {absent x : type.Content} (isRead : type.IsRead read)
    (taken : member members key absent read = some x) (found : members.find? key = some v) :
    MemberRule.Allows ⟨key, type, false⟩ v := by
  rw [member_of_find? found] at taken
  exact .inl (isRead.has taken)

section

variable {rules : List MemberRule} {β : Type} {y : β}

theorem obeys_cons_nullable {f : Option type.Content → Option β} (isRead : type.IsRead read)
    (taken : member members key none (orNull? read) >>= f = some y)
    (after : ∀ x, f x = some y → Obeys members rules) :
    Obeys members (⟨key, type, true⟩ :: rules) := by
  obtain ⟨x, taken, rest⟩ := Option.bind_eq_some_iff.mp taken
  exact List.forall_mem_cons.mpr ⟨fun _ found => allows_of_nullable isRead taken found, after x rest⟩

theorem obeys_cons_plain {absent : type.Content} {f : type.Content → Option β}
    (isRead : type.IsRead read) (taken : member members key absent read >>= f = some y)
    (after : ∀ x, f x = some y → Obeys members rules) :
    Obeys members (⟨key, type, false⟩ :: rules) := by
  obtain ⟨x, taken, rest⟩ := Option.bind_eq_some_iff.mp taken
  exact List.forall_mem_cons.mpr ⟨fun _ found => allows_of_plain isRead taken found, after x rest⟩

end

/-- What is read from an object whose members have their types. -/
def fields (members : Entries Json) : ActionFields where
  path := content? members .text "path"
  method := content? members .text "method"
  params := (content? members .object "params").getD []
  ajax := (content? members .flag "ajax").getD false
  discardResponse := (content? members .flag "discardResponse").getD false
  ns := content? members .text "namespace"
  timeout := content? members .millis "timeout"
  connectTimeout := content? members .millis "connectTimeout"
  event := content? members .text "event"
  args := (content? members .array "args").getD []
  extensions := content? members .texts "extensions"
  cache := content? members .flag "cache"
  argsEqual := content? members .array "argsEqual"
  argsContain := content? members .any "argsContain"

theorem ofMembers?_of_wellTyped (typed : WellTyped members) :
    ofMembers? members = some (fields members) := by
  have text (key : String) (listed : ⟨key, .text, true⟩ ∈ rules) :=
    member_nullable typed MemberType.isRead_text key listed
  have flag (key : String) (listed : ⟨key, .flag, false⟩ ∈ rules) :=
    member_plain typed MemberType.isRead_flag nofun key listed false
  have millis (key : String) (listed : ⟨key, .millis, true⟩ ∈ rules) :=
    member_nullable typed MemberType.isRead_millis key listed
  unfold ofMembers?
  rw [text "path" (by decide), text "method" (by decide),
    member_plain typed MemberType.isRead_object nofun "params" (by decide) [],
    flag "ajax" (by decide), flag "discardResponse" (by decide),
    text "namespace" (by decide), millis "timeout" (by decide),
    millis "connectTimeout" (by decide), text "event" (by decide),
    member_plain typed MemberType.isRead_array nofun "args" (by decide) [],
    member_nullable typed MemberType.isRead_texts "extensions" (by decide),
    member_nullable typed MemberType.isRead_flag "cache" (by decide),
    member_nullable typed MemberType.isRead_array "argsEqual" (by decide),
    member_nullable typed MemberType.isRead_any "argsContain" (by decide)]
  rfl

theorem wellTyped_of_ofMembers? {f : ActionFields} (taken : ofMembers? members = some f) :
    WellTyped members := by
  refine obeys_cons_nullable MemberType.isRead_text taken fun _ taken => ?_
  refine obeys_cons_nullable MemberType.isRead_text taken fun _ taken => ?_
  refine obeys_cons_plain MemberType.isRead_object taken fun _ taken => ?_
  refine obeys_cons_plain MemberType.isRead_flag taken fun _ taken => ?_
  refine obeys_cons_plain MemberType.isRead_flag taken fun _ taken => ?_
  refine obeys_cons_nullable MemberType.isRead_text taken fun _ taken => ?_
  refine obeys_cons_nullable MemberType.isRead_millis taken fun _ taken => ?_
  refine obeys_cons_nullable MemberType.isRead_millis taken fun _ taken => ?_
  refine obeys_cons_nullable MemberType.isRead_text taken fun _ taken => ?_
  refine obeys_cons_plain MemberType.isRead_array taken fun _ taken => ?_
  refine obeys_cons_nullable MemberType.isRead_texts taken fun _ taken => ?_
  refine obeys_cons_nullable MemberType.isRead_flag taken fun _ taken => ?_
  refine obeys_cons_nullable MemberType.isRead_array taken fun _ taken => ?_
  refine obeys_cons_nullable MemberType.isRead_any taken fun _ taken => ?_
  exact List.forall_mem_nil _

/-! ### Members that are there -/

theorem content?_text {text : String} :
    content? members .text key = some text ↔ members.find? key = some (.str text) := by
  rw [content?, Option.bind_eq_some_iff]
  constructor
  · rintro ⟨v, found, content⟩
    cases v with
    | str s =>
      cases content
      exact found
    | _ => cases content
  · exact fun found => ⟨_, found, rfl⟩

theorem given_iff (typed : WellTyped members) (isRead : type.IsRead read) (key : String)
    (listed : ⟨key, type, true⟩ ∈ rules) :
    Given members key ↔ ∃ x, content? members type key = some x := by
  constructor
  · rintro ⟨v, found, solid⟩
    have has := (typed _ listed v found).resolve_right fun both => solid both.2
    obtain ⟨x, _, content⟩ := (isRead.taken has).resolve_left solid
    exact ⟨x, (content?_of_find? found).trans content⟩
  · rintro ⟨x, content⟩
    cases found : members.find? key with
    | none => exact nomatch (content?_of_missing found).symm.trans content
    | some v =>
      refine ⟨v, found, ?_⟩
      rintro rfl
      exact nomatch (content?_of_null found).symm.trans content

end ActionObject

end LiveSession
