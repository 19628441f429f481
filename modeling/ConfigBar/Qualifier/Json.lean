import ConfigBar.Qualifier.Basic
import ConfigBar.Json.Reading
/-!
# Qualifiers in JSON

A qualifier is an object of its kind and its value: `{"kind": "version", "value": 4}`. The reader
also takes the two in an array, in this order, and skips other fields of the object.

A word may stand for a value as a string, or as the key of an object whose only member is null; the
kind may only in an object, in an array it is a string. When the value comes before its kind it is held back until the kind is known; then an empty object
does for the null as well.
-/

namespace ConfigBar

open ConfigBar.Json (field? hasKeys canBeHeld nat? text?)

/-- The dimension in JSON. -/
def Dimension.toJson (d : Dimension) : Json :=
  .obj [("size1", .nat d.size1.toNat), ("size2", .nat d.size2.toNat)]

namespace Qualifier

/-- The value of a qualifier in JSON. -/
def valueToJson : Qualifier → Json
  | countryCode code => .nat code.toNat
  | networkCode code => .nat code.toNat
  | language code => .str code
  | region code => .str code
  | orientation value => .str (Spelling.word value)
  | density value => .str (Spelling.word value)
  | touch value => .str (Spelling.word value)
  | keyboard value => .str (Spelling.word value)
  | textInput value => .str (Spelling.word value)
  | navigation value => .str (Spelling.word value)
  | dimension value => value.toJson
  | version level => .nat level.toNat

/-- A qualifier in JSON. -/
def toJson (q : Qualifier) : Json := .obj [("kind", .str q.kind.word), ("value", q.valueToJson)]

/-- The word that a value spells. -/
def word? (held : Bool) : Json → Option String
  | .string t => t
  | .object [(key, .null)] => key
  | .object [(key, .object [])] => if held then key else none
  | _ => none

/-- A value of an enumerated type. -/
def spelled? {α : Type} [Spelling α] (held : Bool) (v : Json) : Option α :=
  (word? held v).bind Spelling.ofWord?

/-- A code of 16 bits. -/
def word16? (v : Json) : Option UInt16 := (nat? v).bind Text.word16?

/-- A number of 32 bits. -/
def word32? (v : Json) : Option UInt32 := (nat? v).bind Text.word32?

/-- A dimension: an object of two sizes, or the two sizes in an array. -/
def dimension? : Json → Option Dimension
  | .array [a, b] => do some ⟨← word32? a, ← word32? b⟩
  | .object members =>
    if hasKeys members then do
      let a ← (← field? "size1" members)
      let b ← (← field? "size2" members)
      some ⟨← word32? a, ← word32? b⟩
    else none
  | _ => none

/-- Reads the value of a kind. -/
def ofValue? (held : Bool) (v : Json) : Kind → Option Qualifier
  | .countryCode => (word16? v).map countryCode
  | .networkCode => (word16? v).map networkCode
  | .language => (text? v).map language
  | .region => (text? v).map region
  | .orientation => (spelled? held v).map orientation
  | .density => (spelled? held v).map density
  | .touch => (spelled? held v).map touch
  | .keyboard => (spelled? held v).map keyboard
  | .textInput => (spelled? held v).map textInput
  | .navigation => (spelled? held v).map navigation
  | .dimension => (dimension? v).map dimension
  | .version => (word32? v).map version

/-- Does the value come before the kind? -/
def valueComesFirst (members : List (JsonText × Json)) : Bool :=
  (members.find? fun m => m.1 = some "kind" || m.1 = some "value").any fun m => m.1 = some "value"

/-- Reads a qualifier. -/
def ofJson? : Json → Option Qualifier
  | .array [k, v] => ((text? k).bind Kind.ofWord?).bind (ofValue? false v)
  | .object members =>
    if hasKeys members then do
      let k ← (← field? "kind" members)
      let v ← (← field? "value" members)
      let held := valueComesFirst members
      if held && !canBeHeld v then none
      else ((word? false k).bind Kind.ofWord?).bind (ofValue? held v)
    else none
  | _ => none

end Qualifier

end ConfigBar
