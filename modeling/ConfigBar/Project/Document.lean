import ConfigBar.Json.Number
import ConfigBar.Toml.Table
/-!
# Documents

What a project file in either format holds, before its fields are looked at. Numbers are only used
for dots per inch, so a document holds them in single precision. The entries of a table stay in the
order in which they are written; in JSON a key may be repeated.
-/

namespace ConfigBar

open ConfigBar.Number (Single Decoded)

/-- A value of a project file. -/
inductive Document where
  | null
  | flag
  /-- A number and its value, if it has one. -/
  | number (value : Option Single)
  | text (value : String)
  | list (items : List Document)
  | table (entries : List (String × Document))

namespace Document

mutual

/-- The document of a JSON value. Every string must have a text and every number a value. -/
def ofJson? : Json → Option Document
  | .null => some .null
  | .bool _ => some .flag
  | .number n => (Json.single? n).map fun x => .number (some x)
  | .string t => t.map .text
  | .array items => (ofItems? items).map .list
  | .object members => (ofMembers? members).map .table

/-- The documents of the items of an array. -/
def ofItems? : List Json → Option (List Document)
  | [] => some []
  | v :: vs => do some ((← ofJson? v) :: (← ofItems? vs))

/-- The documents of the members of an object. -/
def ofMembers? : List (JsonText × Json) → Option (List (String × Document))
  | [] => some []
  | (k, v) :: ms => do some ((← k, ← ofJson? v) :: (← ofMembers? ms))

end

/-- A number of double precision in single precision. -/
def ofDouble : Decoded → Single
  | .finite negative m => .ofRatio negative m.numerator m.denominator
  | .infinite negative => .infinity negative
  | .notANumber => .notANumber

/-- The key under which the text of a date stands when a table is expected. -/
def momentKey : String := "$__toml_private_datetime"

/-- An integer in single precision. It must fit a word of 64 bits, signed or unsigned. -/
def ofInteger? (n : Int) : Option Single :=
  if -0x8000000000000000 ≤ n ∧ n < UInt64.size then some (.ofInt n) else none

/-- The document of a TOML value without parts. -/
def ofScalar : Toml.Scalar → Document
  | .flag _ => .flag
  | .integer n => .number (n.bind ofInteger?)
  | .float x => .number (x.map ofDouble)
  | .text s => .text s
  | .moment s => .table [(momentKey, .text s)]

mutual

/-- The document of a TOML value. -/
def ofNode : Toml.Node → Document
  | .scalar s => ofScalar s
  | .array items => .list (ofNodes items)
  | .table _ es => .table (ofEntries es)
  | .tables earlier last => .list (ofTables earlier ++ [.table (ofEntries last)])

/-- The documents of the items of an array. -/
def ofNodes : List Toml.Node → List Document
  | [] => []
  | n :: ns => ofNode n :: ofNodes ns

/-- The documents of the entries of a table. -/
def ofEntries : List (String × Toml.Node) → List (String × Document)
  | [] => []
  | (k, n) :: es => (k, ofNode n) :: ofEntries es

/-- The documents of a list of tables. -/
def ofTables : List (List (String × Toml.Node)) → List Document
  | [] => []
  | es :: ts => .table (ofEntries es) :: ofTables ts

end

/-! ## Fields -/

/-- The values of named fields, in the order of the names. A table may have no other keys and none
twice. A list gives the fields in their order and may leave out the last ones; with `open` it may
also go on after them. -/
def fields? (isOpen : Bool) (names : List String) : Document → Option (List (Option Document))
  | .table es =>
    if (es.map Prod.fst).Nodup ∧ es.all fun e => names.contains e.1 then
      some (names.map fun n => (es.find? fun e => e.1 == n).map Prod.snd)
    else none
  | .list items =>
    if items.length ≤ names.length || isOpen then
      some ((List.range names.length).map fun i => items[i]?)
    else none
  | _ => none

/-- A text. -/
def text? : Document → Option String
  | .text s => some s
  | _ => none

/-- The value of a number. -/
def number? : Document → Option Single
  | .number x => x
  | _ => none

/-- A value or null. -/
def nullable? {α : Type} (read : Document → Option α) : Document → Option (Option α)
  | .null => some none
  | d => (read d).map some

/-- The items of a list. -/
def list? {α : Type} (read : Document → Option α) : Document → Option (List α)
  | .list items => items.mapM read
  | _ => none

/-- The entries of a table. -/
def entries? {α : Type} (read : Document → Option α) : Document → Option (List (String × α))
  | .table es => es.mapM fun e => (read e.2).map fun v => (e.1, v)
  | _ => none

/-- A field that may be missing. -/
def orDefault {α : Type} (default : α) (read : Document → Option α) (field : Option Document) :
    Option α :=
  match field with
  | none => some default
  | some d => read d

end Document

end ConfigBar
