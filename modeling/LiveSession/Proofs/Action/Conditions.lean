import LiveSession.Proofs.Action.Decoding
import LiveSession.Proofs.Json.Equality

/-!
# Conditions on arguments

The object of a `confirm-no-matching-emit` says which arguments are refused: those that are equal to
an array, or those that have a value among them. `Action.ofJson_matching` says which of these
objects are actions and what their predicates hold for.
-/

namespace LiveSession

namespace ActionObject

/-- An object that names the event whose arguments are looked at. -/
structure Matching (members : Entries Json) (event : String) : Prop where
  typed : WellTyped members
  kind : members.find? "kind" = some (.str "confirm-no-matching-emit")
  event : members.find? "event" = some (.str event)

/-- The object is an action that looks at arguments of the event, and refuses those that meet a
condition. -/
def Confirms (members : Entries Json) (event : String) (meets : List Json → Prop) : Prop :=
  ∃ watch accept, Action.ofJson (.obj members) = .ok (.confirmNoMatchingEmit watch accept) ∧
    watch.event = event ∧
      ∀ args : List Json, (∀ arg ∈ args, arg.Proper) → (accept args = true ↔ meets args)

variable {members : Entries Json} {event : String}

theorem matching_contain (event : String) (v : Json) :
    Matching [("kind", .str "confirm-no-matching-emit"), ("event", .str event), ("argsContain", v)]
      event where
  typed := by simp [WellTyped, Obeys, rules, Entries.find?, MemberRule.Allows, MemberType.Has]
  kind := by simp [Entries.find?]
  event := by simp [Entries.find?]

theorem matching_equal (event : String) (expected : List Json) (v : Json) :
    Matching [("kind", .str "confirm-no-matching-emit"), ("event", .str event),
      ("argsEqual", .arr expected), ("argsContain", v)] event where
  typed := by simp [WellTyped, Obeys, rules, Entries.find?, MemberRule.Allows, MemberType.Has]
  kind := by simp [Entries.find?]
  event := by simp [Entries.find?]

theorem Matching.ofJson_eq (matching : Matching members event) :
    Action.ofJson (.obj members) = (fields members).action .confirmNoMatchingEmit := by
  have kind : ActionKind.ofMembers members = .ok .confirmNoMatchingEmit := by
    rw [ActionKind.ofMembers, matching.kind]
    rfl
  simp only [Action.ofJson, kind, ofMembers?_of_wellTyped matching.typed]
  rfl

theorem Matching.ofJson_of_named (matching : Matching members event) (named : event ≠ "") :
    Action.ofJson (.obj members) = (fields members).predicate.map fun accept =>
      .confirmNoMatchingEmit
        { ns := (fields members).ns, event, timeout := (fields members).timeout.map .fixed } accept := by
  have event : (fields members).event = some event := content?_text.mpr matching.event
  rw [matching.ofJson_eq]
  simp only [ActionFields.action, ActionFields.watch, ActionFields.watched, event,
    String.isEmpty_iff, if_neg named]
  cases (fields members).predicate <;> rfl

theorem Matching.ofJson_of_nameless (matching : Matching members "") :
    Action.ofJson (.obj members) =
      .error (.invalidArgument "confirm-no-matching-emit requires an event") := by
  have event : (fields members).event = some "" := content?_text.mpr matching.event
  rw [matching.ofJson_eq]
  simp only [ActionFields.action, ActionFields.watch, ActionFields.watched, event]
  rfl

end ActionObject

open ActionObject

variable {members : Entries Json} {event : String}

theorem Json.someItemSame_iff {v : Json} {args : List Json} (proper : v.Proper)
    (each : ∀ arg ∈ args, arg.Proper) :
    someItemSame v args = true ↔ ∃ arg ∈ args, Equals arg v := by
  rw [someItemSame, List.any_eq_true]
  exact exists_congr fun arg => and_congr_right fun there => same_iff (each arg there) proper

theorem Json.sameItems_iff_equals {expected args : List Json} (proper : (arr expected).Proper)
    (each : ∀ arg ∈ args, arg.Proper) :
    sameItems args expected = true ↔ Equals (.arr args) (.arr expected) := by
  rw [← same_iff (.arr each) proper, same]

theorem ActionObject.Matching.confirms {accept : ArgsPredicate} {meets : List Json → Prop}
    (matching : Matching members event) (named : event ≠ "")
    (predicate : (fields members).predicate = .ok accept)
    (decides : ∀ args : List Json, (∀ arg ∈ args, arg.Proper) → (accept args = true ↔ meets args)) :
    Confirms members event meets := by
  refine ⟨⟨(fields members).ns, event, (fields members).timeout.map .fixed⟩, accept, ?_, rfl, decides⟩
  rw [matching.ofJson_of_named named, predicate]
  rfl

/-- An object with an array `argsEqual` refuses the arguments that are equal to it, whatever stands
beside it. Without one an object refuses the arguments that have `argsContain` among them, but it is
no action if that is `null`, which is the same as none. An event without a name is none. -/
theorem Action.ofJson_matching (matching : Matching members event) :
    (∀ expected : List Json, members.find? "argsEqual" = some (.arr expected) →
      (Json.arr expected).Proper → event ≠ "" →
      Confirms members event fun args => Json.Equals (.arr args) (.arr expected)) ∧
    (∀ v : Json, members.find? "argsContain" = some v → ¬ Given members "argsEqual" → v.Proper →
      event ≠ "" →
      (Confirms members event (fun args => ∃ arg ∈ args, Json.Equals arg v) ↔ v ≠ .null)) ∧
    (¬ Given members "argsEqual" → ¬ Given members "argsContain" → event ≠ "" →
      ofJson (.obj members) = .error
        (.invalidArgument "confirm-no-matching-emit requires argsEqual or argsContain")) ∧
    (event = "" → ofJson (.obj members) =
      .error (.invalidArgument "confirm-no-matching-emit requires an event")) := by
  have absent {type : MemberType} {read : Json → Option type.Content} (isRead : type.IsRead read)
      (key : String) (listed : ⟨key, type, true⟩ ∈ rules) (missing : ¬ Given members key) :
      content? members type key = none :=
    Option.eq_none_iff_forall_ne_some.mpr fun x there =>
      missing ((given_iff matching.typed isRead key listed).mpr ⟨x, there⟩)
  have refused (unequal : ¬ Given members "argsEqual") (uncontained : ¬ Given members "argsContain")
      (named : event ≠ "") : ofJson (.obj members) = .error
        (.invalidArgument "confirm-no-matching-emit requires argsEqual or argsContain") := by
    rw [matching.ofJson_of_named named]
    simp only [ActionFields.predicate, fields,
      absent MemberType.isRead_array "argsEqual" (by decide) unequal,
      absent MemberType.isRead_any "argsContain" (by decide) uncontained]
    rfl
  refine ⟨fun expected found proper named => ?_, fun v found unequal proper named => ?_, refused, ?_⟩
  · refine matching.confirms named ?_
      fun args each => Json.sameItems_iff_equals proper each
    simp only [ActionFields.predicate, fields, content?_of_find? found, MemberType.content?]
  · constructor
    · rintro ⟨_, _, decoded, _⟩ rfl
      have uncontained : ¬ Given members "argsContain" := by
        rintro ⟨_, found', solid⟩
        exact solid (Option.some.inj (found'.symm.trans found))
      rw [refused unequal uncontained named] at decoded
      cases decoded
    · intro solid
      refine matching.confirms named ?_
        fun args each => Json.someItemSame_iff proper each
      have content : MemberType.any.content? v = some v := by
        cases v with
        | null => exact absurd rfl solid
        | _ => rfl
      simp only [ActionFields.predicate, fields,
        absent MemberType.isRead_array "argsEqual" (by decide) unequal, content?_of_find? found,
        content]
  · rintro rfl
    exact matching.ofJson_of_nameless

theorem Action.ofJson_matching_spam :
    Confirms [("kind", .str "confirm-no-matching-emit"), ("event", .str "message"),
        ("argsEqual", .arr [.str "spam"]), ("argsContain", .null)] "message"
      (fun args => Json.Equals (.arr args) (.arr [.str "spam"])) ∧
    Confirms [("kind", .str "confirm-no-matching-emit"), ("event", .str "message"),
        ("argsContain", .int 3)] "message"
      (fun args => ∃ arg ∈ args, Json.Equals arg (.int 3)) := by
  constructor
  · refine (ofJson_matching (matching_equal "message" [.str "spam"] .null)).1 _ rfl ?_ (by decide)
    exact .arr fun item there => List.mem_singleton.mp there ▸ .str "spam"
  · refine ((ofJson_matching (matching_contain "message" (.int 3))).2.1 _ rfl ?_ (.int 3)
      (by decide)).mpr nofun
    exact fun ⟨_, found, _⟩ => nomatch found

/-- Arguments that have `null` among them cannot be told by a document. -/
theorem Action.not_confirms_null :
    ¬ Confirms [("kind", .str "confirm-no-matching-emit"), ("event", .str "message"),
        ("argsContain", .null)] "message"
      (fun args => ∃ arg ∈ args, Json.Equals arg .null) := by
  rintro ⟨_, _, decoded, _⟩
  have refused : ofJson (.obj [("kind", .str "confirm-no-matching-emit"), ("event", .str "message"),
      ("argsContain", .null)]) = .error
        (.invalidArgument "confirm-no-matching-emit requires argsEqual or argsContain") := rfl
  exact nomatch refused.symm.trans decoded

end LiveSession
