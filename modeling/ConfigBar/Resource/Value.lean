import ConfigBar.Order.SortedMap
/-!
# Resource values

Values that have already been parsed, as the provider of resources hands them in: styles with an
optional parent reference, and simple values. A `ResourceMap` holds the values of one type by key,
`ConfiguredResources` holds the maps of all types.
-/

namespace ConfigBar

/-- The types of resources. -/
inductive ResourceType where
  | anim
  | array
  | attr
  | color
  | dimen
  | drawable
  | id
  | layout
  | string
  | style
  deriving DecidableEq, Repr

namespace ResourceType

/-- All types in their order. -/
def all : List ResourceType :=
  [anim, array, attr, color, dimen, drawable, id, layout, string, style]

/-- The place of a type in the order. -/
def index : ResourceType → Nat
  | anim => 0
  | array => 1
  | attr => 2
  | color => 3
  | dimen => 4
  | drawable => 5
  | id => 6
  | layout => 7
  | string => 8
  | style => 9

/-- The name of a type. -/
def name : ResourceType → String
  | anim => "anim"
  | array => "array"
  | attr => "attr"
  | color => "color"
  | dimen => "dimen"
  | drawable => "drawable"
  | id => "id"
  | layout => "layout"
  | string => "string"
  | style => "style"

/-- The type with a given name. -/
def ofName? (s : String) : Option ResourceType := all.find? fun t => t.name = s

theorem index_injective {a b : ResourceType} (h : a.index = b.index) : a = b := by
  cases a <;> cases b <;> first | rfl | cases h

instance : Ord ResourceType := ⟨compareOn index⟩

instance : Std.TransOrd ResourceType := inferInstanceAs (Std.TransCmp (compareOn index))

instance : Std.LawfulEqOrd ResourceType where
  eq_of_compare h := index_injective (Std.LawfulEqOrd.eq_of_compare (α := Nat) h)
  compare_self := Std.ReflOrd.compare_self (α := Nat)

end ResourceType

/-- A named value. Only styles can be themes. -/
inductive ResourceValue where
  /-- The parent is the reference as it was written, such as `@android:style/Theme`. -/
  | style (name : String) (parent : Option String)
  | simple (name : String) (value : String)
  deriving DecidableEq, Repr

namespace ResourceValue

/-- The name of a value. -/
def name : ResourceValue → String
  | style name _ => name
  | simple name _ => name

/-- Is the value a style? -/
def isStyle : ResourceValue → Bool
  | style _ _ => true
  | simple _ _ => false

/-- The parent reference of a style, if it has one. -/
def parent? : ResourceValue → Option String
  | style _ parent => parent
  | simple _ _ => none

end ResourceValue

/-- The values of one type by key. -/
abbrev ResourceMap := SortedMap String ResourceValue

/-- The values of all types. -/
abbrev ConfiguredResources := SortedMap ResourceType ResourceMap

/-- The map of a list of values by their names. -/
def resourceMap (values : List ResourceValue) : ResourceMap :=
  .ofList (values.map fun v => (v.name, v))

namespace ResourceMap

/-- Is every value stored under its own name? -/
def IsKeyedByName (m : ResourceMap) : Prop := ∀ e ∈ m.toList, e.2.name = e.1

instance (m : ResourceMap) : Decidable m.IsKeyedByName :=
  inferInstanceAs (Decidable (∀ e ∈ m.toList, e.2.name = e.1))

theorem IsKeyedByName.get?_name {m : ResourceMap} (h : m.IsKeyedByName) {v : ResourceValue}
    (hv : v ∈ m.values) : m.get? v.name = some v := by
  obtain ⟨⟨k, w⟩, he, rfl⟩ := List.mem_map.1 hv
  rw [h _ he]
  exact SortedMap.get?_eq_some_iff.2 he

/-- In a map of values by their names, no name is repeated. -/
theorem IsKeyedByName.nodup_names {m : ResourceMap} (h : m.IsKeyedByName) :
    (m.values.map ResourceValue.name).Nodup := by
  have hnames : m.values.map ResourceValue.name = m.toList.map Prod.fst := by
    rw [SortedMap.values, List.map_map]
    exact List.map_congr_left h
  rw [hnames]
  exact m.nodup_keys

end ResourceMap

end ConfigBar
