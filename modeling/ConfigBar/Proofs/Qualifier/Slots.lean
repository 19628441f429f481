import ConfigBar.Order.SortedMap
import ConfigBar.Proofs.Qualifier.Reading
/-!
# Sets of qualifiers as maps

A set of qualifiers can also be held as a sorted map from kinds to qualifiers. Nothing in such a map
keeps a qualifier out of the slot of another kind, and the typed readers find no value where one has
got in: it is up to the operations that none does.

* `get?_add`, `get?_put`, `get?_ofList` — what the operations leave in the slots
* `sameResult_ofFolder` — folder names are read to the same slots as into a set
* `Shows.toList_eq` — a map with the look-ups of a set has every qualifier in the slot of its kind, in
  folder order
* `reads_of_get?` — then the typed readers find what there is
-/

namespace ConfigBar

namespace Kind

instance : Ord Kind := ⟨compareOn index⟩

instance : Std.TransOrd Kind := inferInstanceAs (Std.TransCmp (compareOn index))

instance : Std.LawfulEqOrd Kind where
  eq_of_compare h := index_injective (Std.LawfulEqOrd.eq_of_compare (α := Nat) h)
  compare_self := Std.ReflOrd.compare_self (α := Nat)

theorem compare_eq_lt_iff {a b : Kind} : compare a b = .lt ↔ a.index < b.index :=
  Nat.compare_eq_lt

end Kind

/-- A map from kinds to qualifiers. -/
abbrev Slots := SortedMap Kind Qualifier

namespace Slots

/-- Writes a qualifier into the slot of its kind. -/
def add (m : Slots) (q : Qualifier) : Slots := m.insert q.kind q

/-- Empties the slot of a kind, and writes a qualifier into it that is of the kind. -/
def put (m : Slots) (k : Kind) : Option Qualifier → Slots
  | some q => if q.kind = k then (m.erase k).insert k q else m.erase k
  | none => m.erase k

/-- The slots of a list of qualifiers; of two of one kind the later one counts. -/
def ofList (qs : List Qualifier) : Slots := qs.foldl add ∅

/-- Reads segments into slots that already hold the earlier ones. -/
def readSegments (m : Slots) (last : Option Kind) : List String → Except QualifierError Slots
  | [] => .ok m
  | text :: rest =>
    match Qualifier.ofSegment? text with
    | none => .error (.unrecognized text)
    | some q =>
      if m.contains q.kind then .error (.duplicate q.kind)
      else if QualifierSet.isLater last q.kind then .error (.outOfOrder text)
      else readSegments (m.add q) (some q.kind) rest

/-- Reads a folder name. -/
def ofFolder (text : String) : Except QualifierError Slots :=
  readSegments ∅ none (QualifierSet.segments text)

variable {m : Slots} {s : QualifierSet} {k : Kind}

/-! ## Look-ups -/

theorem get?_add (m : Slots) (q : Qualifier) (k : Kind) :
    (m.add q).get? k = if q.kind = k then some q else m.get? k :=
  SortedMap.get?_insert m q.kind k q

/-- The slot holds the qualifier if that is of its kind and is empty otherwise. All other slots stay
as they are, that of the kind of the qualifier as well. -/
theorem get?_put (m : Slots) (a k : Kind) (q : Option Qualifier) :
    (m.put a q).get? k = if a = k then q.filter (·.kind = k) else m.get? k := by
  have herase := SortedMap.get?_erase m a k
  cases q with
  | none => exact herase
  | some q =>
    rw [put]
    by_cases hq : q.kind = a
    · rw [if_pos hq, SortedMap.get?_insert, herase]
      by_cases hk : a = k
      · simp [hk, hq ▸ hk, Option.filter]
      · simp [hk]
    · rw [if_neg hq, herase]
      by_cases hk : a = k
      · simp [hk, hk ▸ hq, Option.filter]
      · simp [hk]

theorem get?_ofList (qs : List Qualifier) (k : Kind) :
    (ofList qs).get? k = qs.reverse.find? fun q => q.kind = k := by
  rw [ofList, get?_foldl get?_add, SortedMap.get?_empty, Option.or_none]

/-! ## Slots that hold a set -/

/-- Do the slots hold the qualifiers of a set? -/
def Shows (m : Slots) (s : QualifierSet) : Prop := ∀ k, m.get? k = s.get? k

theorem shows_empty : Shows ∅ ∅ := fun k => (QualifierSet.get?_empty k).symm

theorem Shows.add (h : m.Shows s) (q : Qualifier) : (m.add q).Shows (s.add q) := fun k => by
  rw [get?_add, QualifierSet.get?_add, h k]

/-- The slots and the set are read in the same way, or they are refused for the same reason. -/
inductive SameResult : Except QualifierError Slots → Except QualifierError QualifierSet → Prop where
  | ok {m : Slots} {s : QualifierSet} : m.Shows s → SameResult (.ok m) (.ok s)
  | error (e : QualifierError) : SameResult (.error e) (.error e)

theorem sameResult_readSegments (h : m.Shows s) (last : Option Kind) (texts : List String) :
    SameResult (m.readSegments last texts) (s.readSegments last texts) := by
  induction texts generalizing m s last with
  | nil => exact .ok h
  | cons text rest ih =>
    rw [readSegments, QualifierSet.readSegments]
    cases Qualifier.ofSegment? text with
    | none => exact .error _
    | some q =>
      simp only [SortedMap.contains, h q.kind]
      split
      · exact .error _
      · split
        · exact .error _
        · exact ih (h.add q) _

/-- A folder name is read to the slots of the set that it is read as. -/
theorem sameResult_ofFolder (text : String) :
    SameResult (ofFolder text) (QualifierSet.ofFolder text) :=
  sameResult_readSegments shows_empty none _

theorem exists_of_ofFolder {text : String} (h : ofFolder text = .ok m) :
    ∃ s, QualifierSet.ofFolder text = .ok s ∧ m.Shows s := by
  have hsame := sameResult_ofFolder text
  rw [h] at hsame
  generalize QualifierSet.ofFolder text = read at hsame ⊢
  cases hsame with
  | ok hshows => exact ⟨_, rfl, hshows⟩

theorem ofFolder_eq_error {text : String} {e : QualifierError} (h : ofFolder text = .error e) :
    QualifierSet.ofFolder text = .error e := by
  have hsame := sameResult_ofFolder text
  rw [h] at hsame
  generalize QualifierSet.ofFolder text = read at hsame ⊢
  cases hsame
  rfl

/-- Slots that hold a set list its qualifiers in folder order, each in the slot of its kind. -/
theorem Shows.toList_eq (h : m.Shows s) : m.toList = s.toList.map fun q => (q.kind, q) := by
  have : Std.Irrefl fun a b : Kind × Qualifier => compare a.1 b.1 = .lt :=
    ⟨fun a hlt => by simp at hlt⟩
  have : Std.Antisymm fun a b : Kind × Qualifier => compare a.1 b.1 = .lt :=
    ⟨fun a b hab hba =>
      absurd (Kind.compare_eq_lt_iff.mp hab) (Nat.lt_asymm (Kind.compare_eq_lt_iff.mp hba))⟩
  have hascending : (s.toList.map fun q => (q.kind, q)).Pairwise
      fun a b => compare a.1 b.1 = .lt :=
    List.pairwise_map.mpr (s.toList_ascending.imp Kind.compare_eq_lt_iff.mpr)
  -- both lists are strictly ascending, so it is enough that they have the same elements
  refine m.ascending.eq_of_mem_iff hascending fun ⟨k, q⟩ => ?_
  rw [← SortedMap.toList, ← SortedMap.get?_eq_some_iff, h k, List.mem_map]
  constructor
  · intro hget
    obtain rfl := QualifierSet.kind_of_get? hget
    exact ⟨q, QualifierSet.mem_toList.mpr hget, rfl⟩
  · rintro ⟨p, hp, he⟩
    cases he
    exact QualifierSet.mem_toList.mp hp

/-- Slots that hold the same set are the same. -/
theorem Shows.unique {m' : Slots} (h : m.Shows s) (h' : m'.Shows s) : m = m' := by
  have hentries : m.entries = m'.entries := h.toList_eq.trans h'.toList_eq.symm
  cases m
  cases m'
  cases hentries
  rfl

/-! ## Typed readers -/

/-- The value in the slot of a kind. There is none if the slot is empty, and none either if the
qualifier in it has no such value. -/
def value? {α : Type} (m : Slots) (k : Kind) (read : Qualifier → Option α) : Option α :=
  (m.get? k).bind read

/-- Does a typed reader find just the given value, and one exactly if the slot is filled? -/
def Reads {α : Type} (m : Slots) (k : Kind) (read : Qualifier → Option α) (a : Option α) : Prop :=
  m.value? k read = a ∧ a.isSome = (m.get? k).isSome

/-- A slot with a qualifier of its kind, or with none, is read. -/
theorem reads_of_get? {α : Type} {read : Qualifier → Option α} {qualifier : α → Qualifier}
    {a : Option α} (hread : ∀ x, read (qualifier x) = some x) (h : m.get? k = a.map qualifier) :
    m.Reads k read a := by
  unfold Reads value?
  rw [h]
  cases a with
  | none => exact ⟨rfl, rfl⟩
  | some x => exact ⟨hread x, rfl⟩

end Slots

namespace Qualifier

/-- The code of a language. -/
def asLanguage? : Qualifier → Option String
  | .language code => some code
  | _ => none

/-- The code of a region. -/
def asRegion? : Qualifier → Option String
  | .region code => some code
  | _ => none

/-- The level of a version. -/
def asVersion? : Qualifier → Option UInt32
  | .version level => some level
  | _ => none

/-- A pixel density. -/
def asDensity? : Qualifier → Option Density
  | .density value => some value
  | _ => none

/-- A screen orientation. -/
def asOrientation? : Qualifier → Option Orientation
  | .orientation value => some value
  | _ => none

/-- A screen dimension. -/
def asDimension? : Qualifier → Option Dimension
  | .dimension value => some value
  | _ => none

end Qualifier

/-- Do the typed readers find the values of a set? -/
structure Slots.ReadsAll (m : Slots) (s : QualifierSet) : Prop where
  language : m.Reads .language Qualifier.asLanguage? s.language
  region : m.Reads .region Qualifier.asRegion? s.region
  version : m.Reads .version Qualifier.asVersion? s.version
  density : m.Reads .density Qualifier.asDensity? s.density
  orientation : m.Reads .orientation Qualifier.asOrientation? s.orientation
  dimension : m.Reads .dimension Qualifier.asDimension? s.dimension

/-- Those of slots that hold the set do. -/
theorem Slots.Shows.readsAll {m : Slots} {s : QualifierSet} (h : m.Shows s) : m.ReadsAll s where
  language := reads_of_get? (fun _ => rfl) (h .language)
  region := reads_of_get? (fun _ => rfl) (h .region)
  version := reads_of_get? (fun _ => rfl) (h .version)
  density := reads_of_get? (fun _ => rfl) (h .density)
  orientation := reads_of_get? (fun _ => rfl) (h .orientation)
  dimension := reads_of_get? (fun _ => rfl) (h .dimension)

end ConfigBar
