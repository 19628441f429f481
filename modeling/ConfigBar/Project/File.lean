import ConfigBar.Project.Document
import ConfigBar.Order.SortedMap
/-!
# Project files

What a project file says, before it is checked: devices with their variants, and the resources of
the framework and of the project. `ProjectFile.ofDocument?` reads it, `ProjectFile.toJson` writes it
with all fields.

Every record may also be a list of its fields in their order (`Document.fields?`). Fields that may
be missing are the dots per inch, the variants, the qualifiers, the parents, and all lists and
tables; only the dots per inch, the parents and the two resource sections may be null.
-/

namespace ConfigBar

open ConfigBar.Number (Single)

/-- A variant of a device. -/
structure VariantEntry where
  name : String
  /-- The folder name of its qualifiers. -/
  qualifiers : String
  deriving DecidableEq, Repr

/-- A device. -/
structure DeviceEntry where
  name : String
  xdpi : Option Single
  ydpi : Option Single
  variants : List VariantEntry
  deriving DecidableEq, Repr

/-- A style. -/
structure StyleEntry where
  name : String
  parent : Option String
  deriving DecidableEq, Repr

/-- The resources of the framework or of the project. -/
structure ResourceSection where
  styles : List StyleEntry
  strings : SortedMap String String
  /-- The regions of each language. -/
  languages : SortedMap String (List String)
  deriving DecidableEq

/-- A project file. -/
structure ProjectFile where
  devices : List DeviceEntry
  framework : Option ResourceSection
  project : Option ResourceSection
  deriving DecidableEq

/-! ## Reading -/

open Document (fields? text? number? nullable? list? entries? orDefault)

/-- Reads a variant. -/
def VariantEntry.ofDocument? (isOpen : Bool) (d : Document) : Option VariantEntry := do
  match ← fields? isOpen ["name", "qualifiers"] d with
  | [name, qualifiers] => some ⟨← text? (← name), ← orDefault "" text? qualifiers⟩
  | _ => none

/-- Reads a device. -/
def DeviceEntry.ofDocument? (isOpen : Bool) (d : Document) : Option DeviceEntry := do
  match ← fields? isOpen ["name", "xdpi", "ydpi", "configs"] d with
  | [name, xdpi, ydpi, variants] =>
    some {
      name := ← text? (← name)
      xdpi := ← orDefault none (nullable? number?) xdpi
      ydpi := ← orDefault none (nullable? number?) ydpi
      variants := ← orDefault [] (list? (VariantEntry.ofDocument? isOpen)) variants }
  | _ => none

/-- Reads a style. -/
def StyleEntry.ofDocument? (isOpen : Bool) (d : Document) : Option StyleEntry := do
  match ← fields? isOpen ["name", "parent"] d with
  | [name, parent] => some ⟨← text? (← name), ← orDefault none (nullable? text?) parent⟩
  | _ => none

/-- Reads the resources of the framework or of the project. -/
def ResourceSection.ofDocument? (isOpen : Bool) (d : Document) : Option ResourceSection := do
  match ← fields? isOpen ["styles", "strings", "languages"] d with
  | [styles, strings, languages] =>
    some {
      styles := ← orDefault [] (list? (StyleEntry.ofDocument? isOpen)) styles
      strings := .ofList (← orDefault [] (entries? text?) strings)
      languages := .ofList (← orDefault [] (entries? (list? text?)) languages) }
  | _ => none

/-- Reads a project file. With `isOpen` a list of fields may have further items. -/
def ProjectFile.ofDocument? (isOpen : Bool) (d : Document) : Option ProjectFile := do
  match ← fields? isOpen ["devices", "framework", "project"] d with
  | [devices, framework, project] =>
    some {
      devices := ← orDefault [] (list? (DeviceEntry.ofDocument? isOpen)) devices
      framework := ← orDefault none (nullable? (ResourceSection.ofDocument? isOpen)) framework
      project := ← orDefault none (nullable? (ResourceSection.ofDocument? isOpen)) project }
  | _ => none

/-! ## Writing -/

/-- A variant in JSON. -/
def VariantEntry.toJson (v : VariantEntry) : Json :=
  .obj [("name", .str v.name), ("qualifiers", .str v.qualifiers)]

/-- A device in JSON. -/
def DeviceEntry.toJson (d : DeviceEntry) : Json :=
  .obj [("name", .str d.name), ("xdpi", .opt Json.ofSingle d.xdpi),
    ("ydpi", .opt Json.ofSingle d.ydpi), ("configs", .array (d.variants.map VariantEntry.toJson))]

/-- A style in JSON. -/
def StyleEntry.toJson (s : StyleEntry) : Json :=
  .obj [("name", .str s.name), ("parent", .opt .str s.parent)]

/-- The resources of the framework or of the project in JSON. -/
def ResourceSection.toJson (s : ResourceSection) : Json :=
  .obj [("styles", .array (s.styles.map StyleEntry.toJson)),
    ("strings", .obj (s.strings.toList.map fun e => (e.1, .str e.2))),
    ("languages", .obj (s.languages.toList.map fun e => (e.1, .strs e.2)))]

/-- A project file in JSON. -/
def ProjectFile.toJson (f : ProjectFile) : Json :=
  .obj [("devices", .array (f.devices.map DeviceEntry.toJson)),
    ("framework", .opt ResourceSection.toJson f.framework),
    ("project", .opt ResourceSection.toJson f.project)]

end ConfigBar
