import ConfigBar.Qualifier.Basic
/-!
# Sets of qualifiers

A set holds at most one qualifier of each kind. It is a record with one field for each kind, so a
qualifier can only stand under its own kind. The look-up `get?` is the view by which the operations
are described:

* `add` replaces the qualifier of its kind (`get?_add`),
* `clear` empties one kind (`get?_clear`),
* `put` writes a slot: a qualifier of another kind only clears it (`get?_put`),
* `toList` lists the qualifiers in folder order,
* two sets with the same look-ups are equal (`ext_get?`).
-/

namespace ConfigBar

/-- At most one qualifier of each kind. -/
structure QualifierSet where
  countryCode : Option UInt16
  networkCode : Option UInt16
  language : Option String
  region : Option String
  orientation : Option Orientation
  density : Option Density
  touch : Option Touch
  keyboard : Option Keyboard
  textInput : Option TextInput
  navigation : Option Navigation
  dimension : Option Dimension
  version : Option UInt32
  deriving DecidableEq, Repr

namespace QualifierSet

/-- The set without qualifiers: the default configuration. -/
def empty : QualifierSet :=
  ⟨none, none, none, none, none, none, none, none, none, none, none, none⟩

instance : EmptyCollection QualifierSet := ⟨empty⟩

instance : Inhabited QualifierSet := ⟨empty⟩

/-- The qualifier of a kind. -/
def get? (s : QualifierSet) : Kind → Option Qualifier
  | .countryCode => s.countryCode.map .countryCode
  | .networkCode => s.networkCode.map .networkCode
  | .language => s.language.map .language
  | .region => s.region.map .region
  | .orientation => s.orientation.map .orientation
  | .density => s.density.map .density
  | .touch => s.touch.map .touch
  | .keyboard => s.keyboard.map .keyboard
  | .textInput => s.textInput.map .textInput
  | .navigation => s.navigation.map .navigation
  | .dimension => s.dimension.map .dimension
  | .version => s.version.map .version

/-- Adds a qualifier; it replaces the qualifier of its kind. -/
def add (s : QualifierSet) : Qualifier → QualifierSet
  | .countryCode code => { s with countryCode := some code }
  | .networkCode code => { s with networkCode := some code }
  | .language code => { s with language := some code }
  | .region code => { s with region := some code }
  | .orientation value => { s with orientation := some value }
  | .density value => { s with density := some value }
  | .touch value => { s with touch := some value }
  | .keyboard value => { s with keyboard := some value }
  | .textInput value => { s with textInput := some value }
  | .navigation value => { s with navigation := some value }
  | .dimension value => { s with dimension := some value }
  | .version level => { s with version := some level }

/-- Removes the qualifier of a kind. -/
def clear (s : QualifierSet) : Kind → QualifierSet
  | .countryCode => { s with countryCode := none }
  | .networkCode => { s with networkCode := none }
  | .language => { s with language := none }
  | .region => { s with region := none }
  | .orientation => { s with orientation := none }
  | .density => { s with density := none }
  | .touch => { s with touch := none }
  | .keyboard => { s with keyboard := none }
  | .textInput => { s with textInput := none }
  | .navigation => { s with navigation := none }
  | .dimension => { s with dimension := none }
  | .version => { s with version := none }

/-- Writes the slot of a kind. Without a qualifier the slot is cleared, and likewise with a
qualifier of another kind; no other slot changes. -/
def put (s : QualifierSet) (k : Kind) : Option Qualifier → QualifierSet
  | some q => if q.kind = k then s.add q else s.clear k
  | none => s.clear k

/-- The set of the qualifiers of a list; of two of one kind the later one counts. -/
def ofList (qs : List Qualifier) : QualifierSet := qs.foldl add ∅

/-- The qualifiers in folder order. -/
def toList (s : QualifierSet) : List Qualifier := Kind.all.filterMap s.get?

/-- The number of qualifiers. -/
def size (s : QualifierSet) : Nat := s.toList.length

/-- Has the set no qualifier? -/
def isEmpty (s : QualifierSet) : Bool := s.toList.isEmpty

@[simp] theorem get?_empty (k : Kind) : (∅ : QualifierSet).get? k = none := by cases k <;> rfl

theorem kind_of_get? {s : QualifierSet} {k : Kind} {q : Qualifier} (h : s.get? k = some q) :
    q.kind = k := by
  cases k <;> (obtain ⟨_, _, rfl⟩ := Option.map_eq_some_iff.1 h; rfl)

theorem get?_add (s : QualifierSet) (q : Qualifier) (k : Kind) :
    (s.add q).get? k = if q.kind = k then some q else s.get? k := by
  cases q <;> cases k <;> rfl

theorem get?_clear (s : QualifierSet) (a k : Kind) :
    (s.clear a).get? k = if a = k then none else s.get? k := by
  cases a <;> cases k <;> rfl

theorem get?_put (s : QualifierSet) (a k : Kind) (q : Option Qualifier) :
    (s.put a q).get? k = if a = k then q.filter (·.kind = k) else s.get? k := by
  cases q with
  | none => simp [put, get?_clear]
  | some q =>
    by_cases h : q.kind = a
    · by_cases hk : a = k
      · subst hk
        simp [put, get?_add, h, Option.filter]
      · simp [put, get?_add, h, hk]
    · by_cases hk : a = k
      · subst hk
        simp [put, get?_clear, h, Option.filter]
      · simp [put, get?_clear, h, hk]

/-- Two sets with the same look-ups are equal. -/
theorem ext_get? {s t : QualifierSet} (h : ∀ k, s.get? k = t.get? k) : s = t := by
  have map_injective : ∀ {α : Type} {f : α → Qualifier}, (∀ a b, f a = f b → a = b) →
      ∀ {x y : Option α}, x.map f = y.map f → x = y := by
    intro α f hf x y hxy
    cases x <;> cases y <;> simp_all
    exact hf _ _ hxy
  obtain ⟨s1, s2, s3, s4, s5, s6, s7, s8, s9, s10, s11, s12⟩ := s
  obtain ⟨t1, t2, t3, t4, t5, t6, t7, t8, t9, t10, t11, t12⟩ := t
  have h1 := map_injective (by simp) (h .countryCode)
  have h2 := map_injective (by simp) (h .networkCode)
  have h3 := map_injective (by simp) (h .language)
  have h4 := map_injective (by simp) (h .region)
  have h5 := map_injective (by simp) (h .orientation)
  have h6 := map_injective (by simp) (h .density)
  have h7 := map_injective (by simp) (h .touch)
  have h8 := map_injective (by simp) (h .keyboard)
  have h9 := map_injective (by simp) (h .textInput)
  have h10 := map_injective (by simp) (h .navigation)
  have h11 := map_injective (by simp) (h .dimension)
  have h12 := map_injective (by simp) (h .version)
  simp_all

end QualifierSet

end ConfigBar
