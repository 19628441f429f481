import ConfigBar.Resource.Value
import ConfigBar.Json.Reading
/-!
# Resource values in JSON

A value is an object whose field `type` tells a style from a simple value. The reader also takes an
array with the type first and the other fields in their order; there and in the object a style may
leave out its parent. The fields are held back until the type is known, so even the fields that are
skipped must be complete.
-/

namespace ConfigBar

open ConfigBar.Json (field? hasKeys canBeHeld text? optionalText?)

namespace ResourceValue

/-- A value in JSON. -/
def toJson : ResourceValue → Json
  | style name parent =>
    .obj [("type", .str "style"), ("name", .str name), ("parent", .opt .str parent)]
  | simple name value => .obj [("type", .str "simple"), ("name", .str name), ("value", .str value)]

/-- A style with a name and a parent that may be missing. -/
def styleOf? (name : Json) (parent : Option Json) : Option ResourceValue := do
  let parent ← match parent with
    | none => some none
    | some v => optionalText? v
  some (.style (← text? name) parent)

/-- A simple value with a name and a text. -/
def simpleOf? (name value : Json) : Option ResourceValue := do
  some (.simple (← text? name) (← text? value))

/-- The value of the fields of an object. -/
def ofFields? (members : List (JsonText × Json)) : String → Option ResourceValue
  | "style" => do styleOf? (← (← field? "name" members)) (← field? "parent" members)
  | "simple" => do simpleOf? (← (← field? "name" members)) (← (← field? "value" members))
  | _ => none

/-- The value of fields in their order. -/
def ofItems? : String → List Json → Option ResourceValue
  | "style", [name] => styleOf? name none
  | "style", [name, parent] => styleOf? name (some parent)
  | "simple", [name, value] => simpleOf? name value
  | _, _ => none

/-- Reads a value. -/
def ofJson? : Json → Option ResourceValue
  | .array (type :: items) =>
    if items.all canBeHeld then (text? type).bind fun t => ofItems? t items else none
  | .object members =>
    if hasKeys members && (members.filter fun m => m.1 ≠ some "type").all (canBeHeld ·.2) then do
      let type ← (← field? "type" members)
      ofFields? members (← text? type)
    else none
  | _ => none

end ResourceValue

/-- A map of values in JSON. -/
def ResourceMap.toJson (m : ResourceMap) : Json := .obj (m.toList.map fun e => (e.1, e.2.toJson))

/-- The values of all types in JSON. -/
def ConfiguredResources.toJson (r : ConfiguredResources) : Json :=
  .obj (r.toList.map fun e => (e.1.name, ResourceMap.toJson e.2))

end ConfigBar
