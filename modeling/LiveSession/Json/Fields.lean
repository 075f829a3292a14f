import LiveSession.Json.Read

/-!
# Records in JSON documents

A record of fixed fields is written as an object, or as an array of its fields in order.
`Document.fields?` gives the values of the fields in order; members that name no field are ignored,
whatever they hold, and a field given twice is refused. `Document.slots?` gives their documents.
-/

namespace LiveSession.Document

/-- Puts `v` into the slot of the field `key`; `none` if the slot is taken. Other keys are
ignored. -/
def fill? (key : String) (v : Document) :
    List (String × Option Document) → Option (List (String × Option Document))
  | [] => some []
  | (name, slot) :: rest =>
    if name = key then
      match slot with
      | none => some ((name, some v) :: rest)
      | some _ => none
    else (fill? key v rest).map ((name, slot) :: ·)

def fillAll? (slots : List (String × Option Document)) :
    List (List Glyph × Document) → Option (List (String × Option Document))
  | [] => some slots
  | (key, v) :: rest => do
    let slots' ← fill? (← Glyph.string? key) v slots
    fillAll? slots' rest

/-- Items for the first fields, nothing for those that are left; `none` if there are too many
items. -/
def distribute? : List String → List Document → Option (List (Option Document))
  | [], [] => some []
  | [], _ :: _ => none
  | _ :: names, [] => (distribute? names []).map (none :: ·)
  | _ :: names, d :: ds => (distribute? names ds).map (some d :: ·)

/-- The documents of the fields `names` of a record, in order. -/
def slots? (names : List String) : Document → Option (List (Option Document))
  | .obj members => (fillAll? (names.map fun n => (n, none)) members).map fun s => s.map Prod.snd
  | .arr items => distribute? names items
  | _ => none

/-- The value of a field, which is one level deeper than its record. -/
def fieldValue? (d : Document) : Option Json :=
  d.value? (maxDepth - 1)

def slotValue? : Option Document → Option (Option Json)
  | none => some none
  | some d => d.fieldValue?.map some

/-- The values of the fields `names` of a record, in order. -/
def fields? (names : List String) (d : Document) : Option (List (Option Json)) := do
  (← d.slots? names).mapM slotValue?

end LiveSession.Document
