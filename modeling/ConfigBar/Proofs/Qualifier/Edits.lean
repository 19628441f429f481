import ConfigBar.Proofs.Qualifier.Slots
/-!
# What edits leave in a set of qualifiers

A set of qualifiers is made and changed by edits. What a list of edits leaves is said kind by kind:
the qualifier of the kind that was written last, unless the kind was cleared since (`written`).
Edits can be performed on the record that holds a set as well as on a map of slots, and on any other
representation whose operations are `Lawful`.

* `Edit.write?`, `lastWrite` — what an edit writes into the slot of a kind, and the last write of a
  list of edits
* `Operations.Lawful.get?_step`, `Operations.Lawful.get?_run` — a lawful representation holds it,
  after one edit and after all of them
* `QualifierSet.lawful_operations`, `Slots.lawful_operations` — the record and the map are lawful
* `run_exact` — so both hold the same, every qualifier under its own kind and in folder order
-/

namespace ConfigBar

/-- An edit of a set of qualifiers. -/
inductive Edit where
  /-- Makes the set of a list of qualifiers. -/
  | collect (qs : List Qualifier)
  /-- Makes the set that a folder name is read as. A text that is refused changes nothing. -/
  | read (text : String)
  | add (q : Qualifier)
  /-- Writes the slot of a kind, with a qualifier of any kind or with none. -/
  | put (k : Kind) (q : Option Qualifier)
  | remove (k : Kind)
  /-- Takes over all of another set, which was made by edits of its own. -/
  | replaceAll (other : List Edit)
  | clear

/-! ## The last write -/

/-- The last qualifier of a kind in a list. -/
def lastOf (k : Kind) (qs : List Qualifier) : Option Qualifier :=
  qs.reverse.find? fun q => q.kind = k

/-- Is a text accepted as a folder name? -/
def acceptsFolder (text : String) : Bool := (QualifierSet.ofFolder text).isOk

mutual

/-- What an edit writes into the slot of a kind: `some none` clears the slot, `none` leaves it as it
is. A qualifier of another kind clears the slot, and leaves that of its own kind as it is. -/
def Edit.write? (k : Kind) : Edit → Option (Option Qualifier)
  | .collect qs => some (lastOf k qs)
  | .read text =>
    if acceptsFolder text then
      some (lastOf k (Qualifier.ofSegments (QualifierSet.segments text)))
    else none
  | .add q => if q.kind = k then some (some q) else none
  | .put a q => if a = k then some (q.filter (·.kind = k)) else none
  | .remove a => if a = k then some none else none
  | .replaceAll other => some (lastWrite k other).join
  | .clear => some none

/-- The last thing that edits write into the slot of a kind. -/
def lastWrite (k : Kind) : List Edit → Option (Option Qualifier)
  | [] => none
  | e :: es => (lastWrite k es).or (e.write? k)

end

/-- The qualifier of a kind that was written last and not cleared since. -/
def written (k : Kind) (es : List Edit) : Option Qualifier := (lastWrite k es).join

/-! ## Representations of sets -/

/-- The operations of a representation of sets of qualifiers. -/
structure Operations (σ : Type) where
  get? : σ → Kind → Option Qualifier
  empty : σ
  ofList : List Qualifier → σ
  ofFolder : String → Except QualifierError σ
  add : σ → Qualifier → σ
  put : σ → Kind → Option Qualifier → σ
  remove : σ → Kind → σ

namespace Operations

variable {σ : Type} {r : Operations σ}

mutual

/-- Performs an edit. -/
def step (r : Operations σ) (s : σ) : Edit → σ
  | .collect qs => r.ofList qs
  | .read text =>
    match r.ofFolder text with
    | .ok t => t
    | .error _ => s
  | .add q => r.add s q
  | .put k q => r.put s k q
  | .remove k => r.remove s k
  | .replaceAll other => r.runFrom r.empty other
  | .clear => r.empty

/-- Performs edits one after another. -/
def runFrom (r : Operations σ) (s : σ) : List Edit → σ
  | [] => s
  | e :: es => r.runFrom (r.step s e) es

end

/-- The set that edits make from the empty one. -/
def run (r : Operations σ) (es : List Edit) : σ := r.runFrom r.empty es

/-- The operations of a representation do to the look-ups what they are meant to do. -/
structure Lawful (r : Operations σ) : Prop where
  get?_empty : ∀ k, r.get? r.empty k = none
  get?_ofList : ∀ qs k, r.get? (r.ofList qs) k = lastOf k qs
  get?_ofFolder : ∀ {text s}, r.ofFolder text = .ok s → acceptsFolder text = true ∧
    ∀ k, r.get? s k = lastOf k (Qualifier.ofSegments (QualifierSet.segments text))
  ofFolder_error : ∀ {text e}, r.ofFolder text = .error e → acceptsFolder text = false
  get?_add : ∀ s q k, r.get? (r.add s q) k = if q.kind = k then some q else r.get? s k
  get?_put : ∀ s a k q,
    r.get? (r.put s a q) k = if a = k then q.filter (·.kind = k) else r.get? s k
  get?_remove : ∀ s a k, r.get? (r.remove s a) k = if a = k then none else r.get? s k

namespace Lawful

theorem get?_read (h : r.Lawful) (s : σ) (text : String) (k : Kind) :
    r.get? (r.step s (.read text)) k = ((Edit.read text).write? k).getD (r.get? s k) := by
  rw [step, Edit.write?]
  cases hread : r.ofFolder text with
  | ok t =>
    obtain ⟨haccepts, hget⟩ := h.get?_ofFolder hread
    rw [if_pos haccepts]
    exact hget k
  | error e =>
    rw [h.ofFolder_error hread]
    rfl

-- the edits of another set are nested in `replaceAll`, so one edit and a list of them go together
mutual

/-- An edit writes what it is said to write, and leaves all other slots as they are. -/
theorem get?_step (h : r.Lawful) (s : σ) (k : Kind) : (e : Edit) →
    r.get? (r.step s e) k = (e.write? k).getD (r.get? s k)
  | .collect qs => by
    rw [step, Edit.write?]
    exact h.get?_ofList qs k
  | .read text => h.get?_read s text k
  | .add q => by
    rw [step, Edit.write?, h.get?_add]
    split <;> rfl
  | .put a q => by
    rw [step, Edit.write?, h.get?_put]
    split <;> rfl
  | .remove a => by
    rw [step, Edit.write?, h.get?_remove]
    split <;> rfl
  | .replaceAll other => by
    rw [step, Edit.write?, get?_runFrom h r.empty k other, h.get?_empty]
    cases lastWrite k other <;> rfl
  | .clear => by
    rw [step, Edit.write?]
    exact h.get?_empty k

/-- After a list of edits each slot holds the last thing that was written into it. -/
theorem get?_runFrom (h : r.Lawful) (s : σ) (k : Kind) : (es : List Edit) →
    r.get? (r.runFrom s es) k = (lastWrite k es).getD (r.get? s k)
  | [] => by
    rw [runFrom, lastWrite]
    rfl
  | e :: es => by
    rw [runFrom, lastWrite, get?_runFrom h (r.step s e) k es, get?_step h s k e]
    cases lastWrite k es <;> rfl

end

theorem get?_run (h : r.Lawful) (es : List Edit) (k : Kind) :
    r.get? (r.run es) k = written k es := by
  rw [run, get?_runFrom h, h.get?_empty, written]
  cases lastWrite k es <;> rfl

end Lawful

end Operations

/-! ## The record and the map -/

theorem lastOf_ofSegments {text : String} {s : QualifierSet}
    (h : QualifierSet.ofFolder text = .ok s) (k : Kind) :
    s.get? k = lastOf k (Qualifier.ofSegments (QualifierSet.segments text)) := by
  have hlist := (QualifierSet.areOrdered_of_ofFolder h).2
  rw [← hlist, lastOf, ← QualifierSet.get?_ofList, QualifierSet.ofList_toList]

/-- The operations of the record. -/
def QualifierSet.operations : Operations QualifierSet where
  get? := get?
  empty := ∅
  ofList := ofList
  ofFolder := ofFolder
  add := add
  put := put
  remove := clear

theorem QualifierSet.lawful_operations : QualifierSet.operations.Lawful where
  get?_empty := get?_empty
  get?_ofList := get?_ofList
  get?_ofFolder h := ⟨by rw [acceptsFolder, show ofFolder _ = _ from h]; rfl, lastOf_ofSegments h⟩
  ofFolder_error h := by rw [acceptsFolder, show ofFolder _ = _ from h]; rfl
  get?_add := get?_add
  get?_put := get?_put
  get?_remove := get?_clear

/-- The operations of the map. -/
def Slots.operations : Operations Slots where
  get? := SortedMap.get?
  empty := ∅
  ofList := ofList
  ofFolder := ofFolder
  add := add
  put := put
  remove m k := m.erase k

theorem Slots.lawful_operations : Slots.operations.Lawful where
  get?_empty := SortedMap.get?_empty
  get?_ofList := get?_ofList
  get?_ofFolder h := by
    obtain ⟨s, hread, hshows⟩ := exists_of_ofFolder h
    exact ⟨by rw [acceptsFolder, hread]; rfl,
      fun k => (hshows k).trans (lastOf_ofSegments hread k)⟩
  ofFolder_error h := by
    rw [acceptsFolder, ofFolder_eq_error h]
    rfl
  get?_add := get?_add
  get?_put := get?_put
  get?_remove := SortedMap.get?_erase

/-! ## Any edits -/

/-- The map holds what the record holds. -/
theorem shows_run (es : List Edit) :
    (Slots.operations.run es).Shows (QualifierSet.operations.run es) := fun k => by
  have hslot := Slots.lawful_operations.get?_run es k
  have hfield := QualifierSet.lawful_operations.get?_run es k
  exact hslot.trans hfield.symm

/-- No qualifier has got into the slot of another kind. -/
theorem kind_of_mem_run {es : List Edit} {e : Kind × Qualifier}
    (h : e ∈ (Slots.operations.run es).toList) : e.2.kind = e.1 := by
  rw [(shows_run es).toList_eq] at h
  obtain ⟨q, -, rfl⟩ := List.mem_map.mp h
  rfl

/-- The maps that two lists of edits make are the same if they have the same look-ups. -/
theorem run_eq_of_get? {es others : List Edit}
    (h : ∀ k, (Slots.operations.run es).get? k = (Slots.operations.run others).get? k) :
    Slots.operations.run es = Slots.operations.run others := by
  have hshows : (Slots.operations.run es).Shows (QualifierSet.operations.run others) :=
    fun k => (h k).trans (shows_run others k)
  exact hshows.unique (shows_run others)

/-- **Whatever the edits, the record and the map hold of each kind the qualifier that was written
last and not cleared since.** Each qualifier in the map is in the slot of its kind; both list the
same qualifiers, of strictly ascending kinds; a typed reader finds a value exactly if the slot of its
kind is filled; and sets are equal exactly if they have the same look-ups. -/
theorem run_exact (es : List Edit) :
    let s := QualifierSet.operations.run es
    let m := Slots.operations.run es
    (∀ k, s.get? k = written k es ∧ m.get? k = written k es) ∧
      (∀ e ∈ m.toList, e.2.kind = e.1) ∧
      (m.toList.map (·.2) = s.toList ∧ s.toList.Pairwise fun a b => a.kind.index < b.kind.index) ∧
      m.ReadsAll s ∧
      ∀ others,
        (s = QualifierSet.operations.run others ↔
          ∀ k, s.get? k = (QualifierSet.operations.run others).get? k) ∧
        (m = Slots.operations.run others ↔
          ∀ k, m.get? k = (Slots.operations.run others).get? k) := by
  intro s m
  have hshows : m.Shows s := shows_run es
  refine ⟨fun k => ⟨QualifierSet.lawful_operations.get?_run es k,
      Slots.lawful_operations.get?_run es k⟩, fun e => kind_of_mem_run, ⟨?_, s.toList_ascending⟩,
    hshows.readsAll, fun others => ⟨?_, ?_⟩⟩
  · rw [hshows.toList_eq, List.map_map]
    exact List.map_id _
  · exact ⟨fun h k => by rw [h], QualifierSet.ext_get?⟩
  · exact ⟨fun h k => by rw [h], run_eq_of_get?⟩

/-- A folder name whose segments are out of order changes nothing, and a region in the slot of the
language clears that slot: the region that was there is left. -/
theorem run_exact_of_other_kind :
    let es : List Edit := [.collect [.region "US", .language "en"], .read "land-fr",
      .put .language (some (.region "CA"))]
    let others : List Edit := [.replaceAll [.add (.region "US"), .remove .version]]
    let m := Slots.operations.run es
    m.get? .language = none ∧ (.region, .region "US") ∈ m.toList ∧
      (Qualifier.region "US").kind = .region ∧ m = Slots.operations.run others := by
  intro es others m
  obtain ⟨hget, hkinds, -, -, hsame⟩ := run_exact es
  have hmem : (.region, .region "US") ∈ m.toList := by decide
  exact ⟨(hget .language).2, hmem, hkinds _ hmem,
    (hsame others).2.mpr fun k => by cases k <;> decide⟩

end ConfigBar
