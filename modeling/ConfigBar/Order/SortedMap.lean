/-!
# Sorted maps

A finite map is the list of its entries with strictly ascending keys. A map is told by its look-ups:
`get?_insert`, `get?_erase` and `get?_ofList` say them for the maps that are made here.
-/

namespace ConfigBar

open Std (TransOrd LawfulEqOrd)

/-- A finite map, held in strictly ascending order of its keys. -/
structure SortedMap (κ υ : Type) [Ord κ] where
  entries : List (κ × υ)
  ascending : entries.Pairwise fun a b => compare a.1 b.1 = .lt

namespace SortedMap

variable {κ υ : Type} [Ord κ]

instance [DecidableEq κ] [DecidableEq υ] : DecidableEq (SortedMap κ υ) := fun a b =>
  if h : a.entries = b.entries then isTrue (by cases a; cases b; cases h; rfl)
  else isFalse fun e => h (by rw [e])

instance : EmptyCollection (SortedMap κ υ) := ⟨⟨[], .nil⟩⟩

instance : Inhabited (SortedMap κ υ) := ⟨∅⟩

/-- The entries in ascending order of their keys. -/
def toList (m : SortedMap κ υ) : List (κ × υ) := m.entries

/-- The keys in ascending order. -/
def keys (m : SortedMap κ υ) : List κ := m.entries.map Prod.fst

/-- The values in ascending order of their keys. -/
def values (m : SortedMap κ υ) : List υ := m.entries.map Prod.snd

/-- The number of entries. -/
def size (m : SortedMap κ υ) : Nat := m.entries.length

/-- Has the map no entry? -/
def isEmpty (m : SortedMap κ υ) : Bool := m.entries.isEmpty

/-- The value of a key in a list of entries. -/
def find? [DecidableEq κ] (k : κ) : List (κ × υ) → Option υ
  | [] => none
  | (x, v) :: es => if x = k then some v else find? k es

/-- The value of a key. -/
def get? [DecidableEq κ] (m : SortedMap κ υ) (k : κ) : Option υ := find? k m.entries

/-- Is there an entry for the key? -/
def contains [DecidableEq κ] (m : SortedMap κ υ) (k : κ) : Bool := (m.get? k).isSome

/-- The entries whose values pass a test. -/
def filterValues (p : υ → Bool) (m : SortedMap κ υ) : SortedMap κ υ :=
  ⟨m.entries.filter fun e => p e.2, m.ascending.filter _⟩

theorem values_filterValues (p : υ → Bool) (m : SortedMap κ υ) :
    (m.filterValues p).values = m.values.filter p :=
  List.filter_map.symm

/-- Removes the entry of a key. -/
def erase [DecidableEq κ] (k : κ) (m : SortedMap κ υ) : SortedMap κ υ :=
  ⟨m.entries.filter fun e => e.1 ≠ k, m.ascending.filter _⟩

/-- Puts an entry into its place; it replaces an entry with the same key. -/
def insertEntry (k : κ) (v : υ) : List (κ × υ) → List (κ × υ)
  | [] => [(k, v)]
  | e :: es =>
    match compare k e.1 with
    | .lt => (k, v) :: e :: es
    | .eq => (k, v) :: es
    | .gt => e :: insertEntry k v es

theorem mem_insertEntry [LawfulEqOrd κ] {k : κ} {v : υ} {a : κ × υ} {es : List (κ × υ)} :
    a ∈ insertEntry k v es → a = (k, v) ∨ a ∈ es := by
  induction es with
  | nil => simp [insertEntry]
  | cons e es ih =>
    rw [insertEntry]
    split
    · simp
    · intro h
      rcases List.mem_cons.1 h with h | h
      · exact .inl h
      · exact .inr (List.mem_cons_of_mem _ h)
    · intro h
      rcases List.mem_cons.1 h with h | h
      · exact .inr (h ▸ List.mem_cons_self)
      · exact (ih h).imp_right (List.mem_cons_of_mem _)

theorem ascending_insertEntry [TransOrd κ] [LawfulEqOrd κ] (k : κ) (v : υ) {es : List (κ × υ)}
    (h : es.Pairwise fun a b => compare a.1 b.1 = .lt) :
    (insertEntry k v es).Pairwise fun a b => compare a.1 b.1 = .lt := by
  induction es with
  | nil => simp [insertEntry]
  | cons e es ih =>
    obtain ⟨he, hes⟩ := List.pairwise_cons.1 h
    rw [insertEntry]
    split
    · next hk =>
      refine List.pairwise_cons.2 ⟨fun a ha => ?_, h⟩
      rcases List.mem_cons.1 ha with rfl | ha
      · exact hk
      · exact Std.TransCmp.lt_trans hk (he a ha)
    · next hk =>
      have hk := LawfulEqOrd.eq_of_compare hk
      refine List.pairwise_cons.2 ⟨fun a ha => ?_, hes⟩
      simp only [hk]
      exact he a ha
    · next hk =>
      refine List.pairwise_cons.2 ⟨fun a ha => ?_, ih hes⟩
      rcases mem_insertEntry ha with rfl | ha
      · exact Std.OrientedCmp.gt_iff_lt.1 hk
      · exact he a ha

variable [TransOrd κ] [LawfulEqOrd κ]

/-- Adds an entry; it replaces an entry with the same key. -/
def insert (k : κ) (v : υ) (m : SortedMap κ υ) : SortedMap κ υ :=
  ⟨insertEntry k v m.entries, ascending_insertEntry k v m.ascending⟩

/-- The map of a list of entries. Of two entries with the same key the later one counts. -/
def ofList (es : List (κ × υ)) : SortedMap κ υ := es.foldl (fun m e => m.insert e.1 e.2) ∅

omit [TransOrd κ] in
theorem find?_insertEntry [DecidableEq κ] (k a : κ) (v : υ) (es : List (κ × υ)) :
    find? a (insertEntry k v es) = if k = a then some v else find? a es := by
  induction es with
  | nil => simp [insertEntry, find?]
  | cons e es ih =>
    obtain ⟨x, w⟩ := e
    rw [insertEntry]
    split
    · simp [find?]
    · next h =>
      have h : k = x := LawfulEqOrd.eq_of_compare h
      by_cases ha : x = a <;> simp [find?, h, ha]
    · next h =>
      have hne : x ≠ k := by
        rintro rfl
        rw [Std.ReflOrd.compare_self] at h
        cases h
      by_cases hx : x = a
      · subst hx
        simp [find?, Ne.symm hne]
      · simp [find?, hx, ih]

theorem get?_insert [DecidableEq κ] (m : SortedMap κ υ) (k a : κ) (v : υ) :
    (m.insert k v).get? a = if k = a then some v else m.get? a :=
  find?_insertEntry k a v m.entries

omit [TransOrd κ] [LawfulEqOrd κ] in
@[simp] theorem get?_empty [DecidableEq κ] (a : κ) : (∅ : SortedMap κ υ).get? a = none := rfl

omit [TransOrd κ] [LawfulEqOrd κ] [Ord κ] in
theorem find?_filter_ne [DecidableEq κ] (k a : κ) (es : List (κ × υ)) :
    find? a (es.filter fun e => e.1 ≠ k) = if a = k then none else find? a es := by
  induction es with
  | nil => simp [find?]
  | cons e es ih =>
    obtain ⟨x, v⟩ := e
    by_cases hx : x = k
    · rw [List.filter_cons_of_neg (by simp [hx]), ih]
      by_cases ha : a = k
      · rw [if_pos ha, if_pos ha]
      · have hne : x ≠ a := fun h => ha (h.symm.trans hx)
        rw [if_neg ha, if_neg ha, find?, if_neg hne]
    · rw [List.filter_cons_of_pos (by simp [hx]), find?, find?, ih]
      by_cases ha : x = a
      · rw [if_pos ha, if_pos ha, if_neg (ha ▸ hx)]
      · rw [if_neg ha, if_neg ha]

omit [TransOrd κ] [LawfulEqOrd κ] in
theorem get?_erase [DecidableEq κ] (m : SortedMap κ υ) (k a : κ) :
    (m.erase k).get? a = if k = a then none else m.get? a := by
  have hfind := find?_filter_ne k a m.entries
  exact hfind.trans (ite_congr (propext eq_comm) (fun _ => rfl) fun _ => rfl)

omit [LawfulEqOrd κ] in
theorem find?_eq_some_iff [DecidableEq κ] {es : List (κ × υ)}
    (h : es.Pairwise fun a b => compare a.1 b.1 = .lt) {k : κ} {v : υ} :
    find? k es = some v ↔ (k, v) ∈ es := by
  induction es with
  | nil => simp [find?]
  | cons e es ih =>
    obtain ⟨x, w⟩ := e
    obtain ⟨he, hes⟩ := List.pairwise_cons.1 h
    rw [find?]
    split
    · next hx =>
      subst hx
      constructor
      · intro h
        cases h
        exact List.mem_cons_self
      · intro hm
        rcases List.mem_cons.1 hm with hm | hm
        · cases hm
          rfl
        · have := he _ hm
          rw [Std.ReflOrd.compare_self] at this
          cases this
    · next hx =>
      rw [ih hes, List.mem_cons]
      constructor
      · exact .inr
      · rintro (hm | hm)
        · cases hm
          exact absurd rfl hx
        · exact hm

omit [LawfulEqOrd κ] in
/-- A key has a value exactly if there is an entry of both. -/
theorem get?_eq_some_iff [DecidableEq κ] {m : SortedMap κ υ} {k : κ} {v : υ} :
    m.get? k = some v ↔ (k, v) ∈ m.toList :=
  find?_eq_some_iff m.ascending

omit [LawfulEqOrd κ] in
/-- What is left of ascending entries is looked up as before. -/
theorem find?_filter [DecidableEq κ] {es : List (κ × υ)}
    (h : es.Pairwise fun a b => compare a.1 b.1 = .lt) (p : υ → Bool) (k : κ) :
    find? k (es.filter fun e => p e.2) = (find? k es).filter p := by
  refine Option.ext fun v => ?_
  rw [find?_eq_some_iff (h.filter _), Option.filter_eq_some_iff, find?_eq_some_iff h]
  exact List.mem_filter

/-! ## Maps of lists -/

omit [TransOrd κ] [LawfulEqOrd κ] [Ord κ] in
theorem find?_eq_none_iff [DecidableEq κ] {es : List (κ × υ)} {k : κ} :
    find? k es = none ↔ k ∉ es.map Prod.fst := by
  induction es with
  | nil => simp [find?]
  | cons e es ih =>
    obtain ⟨x, w⟩ := e
    by_cases hx : x = k
    · simp [find?, hx]
    · simp [find?, hx, Ne.symm hx, ih]

omit [TransOrd κ] [LawfulEqOrd κ] [Ord κ] in
theorem find?_map [DecidableEq κ] {ω : Type} (f : κ → υ → ω) (k : κ) (es : List (κ × υ)) :
    find? k (es.map fun e => (e.1, f e.1 e.2)) = (find? k es).map (f k) := by
  induction es with
  | nil => rfl
  | cons e es ih =>
    obtain ⟨x, w⟩ := e
    by_cases hx : x = k
    · simp [find?, hx]
    · simp [find?, hx, ih]

theorem get?_foldl_insert [DecidableEq κ] {es : List (κ × υ)} (h : (es.map Prod.fst).Nodup) (k : κ)
    (m : SortedMap κ υ) :
    (es.foldl (fun m e => m.insert e.1 e.2) m).get? k = (find? k es).or (m.get? k) := by
  induction es generalizing m with
  | nil => rfl
  | cons e es ih =>
    obtain ⟨x, w⟩ := e
    obtain ⟨hx, hes⟩ := List.nodup_cons.1 h
    rw [List.foldl_cons, ih hes, get?_insert]
    by_cases hk : x = k
    · subst hk
      simp [find?, find?_eq_none_iff.2 hx]
    · simp [find?, hk]

/-- The map of a list without repeated keys holds what stands in the list. -/
theorem get?_ofList [DecidableEq κ] {es : List (κ × υ)} (h : (es.map Prod.fst).Nodup) (k : κ) :
    (ofList es).get? k = find? k es := by
  rw [ofList, get?_foldl_insert h, get?_empty, Option.or_none]

omit [LawfulEqOrd κ] in
/-- An entry behind all others is put at the end. -/
theorem insertEntry_of_lt {k : κ} {v : υ} {es : List (κ × υ)}
    (h : ∀ e ∈ es, compare e.1 k = .lt) : insertEntry k v es = es ++ [(k, v)] := by
  induction es with
  | nil => rfl
  | cons e es ih =>
    have he : compare k e.1 = .gt := Std.OrientedCmp.gt_iff_lt.2 (h e List.mem_cons_self)
    rw [insertEntry, he, ih fun a ha => h a (List.mem_cons_of_mem e ha), List.cons_append]

theorem entries_foldl_insert {es : List (κ × υ)} (m : SortedMap κ υ)
    (h : (m.entries ++ es).Pairwise fun a b => compare a.1 b.1 = .lt) :
    (es.foldl (fun m e => m.insert e.1 e.2) m).entries = m.entries ++ es := by
  induction es generalizing m with
  | nil => rw [List.foldl_nil, List.append_nil]
  | cons e es ih =>
    have hlast : (m.insert e.1 e.2).entries = m.entries ++ [e] :=
      insertEntry_of_lt fun a ha => (List.pairwise_append.1 h).2.2 a ha e List.mem_cons_self
    have hsplit : m.entries ++ e :: es = (m.insert e.1 e.2).entries ++ es := by
      rw [hlast, List.append_assoc, List.singleton_append]
    rw [hsplit] at h
    rw [List.foldl_cons, ih _ h, hsplit]

/-- A map is the map of its entries. -/
theorem ofList_toList (m : SortedMap κ υ) : ofList m.toList = m := by
  have hentries : (ofList m.toList).entries = m.entries := entries_foldl_insert ∅ m.ascending
  generalize ofList m.toList = n at hentries
  cases m
  cases n
  cases hentries
  rfl

omit [LawfulEqOrd κ] in
theorem nodup_keys (m : SortedMap κ υ) : (m.toList.map Prod.fst).Nodup := by
  rw [List.Nodup, List.pairwise_map]
  refine m.ascending.imp fun {a b} h hab => ?_
  rw [hab, Std.ReflOrd.compare_self] at h
  cases h

/-- Values that are changed entry by entry. -/
theorem get?_ofList_map [DecidableEq κ] {ω : Type} (m : SortedMap κ υ) (f : κ → υ → ω) (k : κ) :
    (ofList (m.toList.map fun e => (e.1, f e.1 e.2))).get? k = (m.get? k).map (f k) := by
  rw [get?_ofList, find?_map]
  · rfl
  · simpa [Function.comp_def] using m.nodup_keys

omit [TransOrd κ] [LawfulEqOrd κ] in
theorem isEmpty_iff [DecidableEq κ] {m : SortedMap κ υ} :
    m.isEmpty = true ↔ ∀ k, m.get? k = none := by
  rw [isEmpty, List.isEmpty_iff]
  constructor
  · intro h k
    rw [get?, h]
    rfl
  · intro h
    refine List.eq_nil_iff_forall_not_mem.2 fun e he => ?_
    exact find?_eq_none_iff.1 (h e.1) (List.mem_map_of_mem he)

end SortedMap

end ConfigBar
