import ConfigBar.Qualifier.Set
import Mathlib.Data.List.Sort
/-!
# The list of a set of qualifiers

* `mem_toList` — the list holds the qualifiers that are looked up
* `toList_ascending` — it is of strictly ascending kinds
* `get?_foldl` — of the qualifiers that are added one after another the last of a kind counts
* `ofList_toList` — a set is the set of its list
* `toList_ofList` — a list of strictly ascending kinds is the list of its set
-/

namespace ConfigBar

/-- If adding a qualifier writes it into the slot of its kind and leaves the other slots alone, then
of the qualifiers of one kind that are added one after another the last one counts. -/
theorem get?_foldl {σ : Type} {get? : σ → Kind → Option Qualifier} {add : σ → Qualifier → σ}
    (hadd : ∀ s q k, get? (add s q) k = if q.kind = k then some q else get? s k)
    (qs : List Qualifier) (s : σ) (k : Kind) :
    get? (qs.foldl add s) k = (qs.reverse.find? fun q => q.kind = k).or (get? s k) := by
  induction qs generalizing s with
  | nil => rfl
  | cons q qs ih =>
    rw [List.foldl_cons, ih, hadd, List.reverse_cons, List.find?_append, Option.or_assoc]
    by_cases hk : q.kind = k <;> simp [hk]

namespace QualifierSet

theorem mem_toList {s : QualifierSet} {q : Qualifier} :
    q ∈ s.toList ↔ s.get? q.kind = some q := by
  unfold toList
  rw [List.mem_filterMap]
  constructor
  · rintro ⟨k, -, hk⟩
    rwa [kind_of_get? hk]
  · intro h
    exact ⟨q.kind, Kind.mem_all q.kind, h⟩

/-- The list of a set is of strictly ascending kinds. -/
theorem toList_ascending (s : QualifierSet) :
    s.toList.Pairwise fun a b => a.kind.index < b.kind.index := by
  refine List.pairwise_filterMap.mpr (Kind.all_pairwise.imp ?_)
  intro k l hkl a ha b hb
  rwa [kind_of_get? ha, kind_of_get? hb]

theorem get?_ofList (qs : List Qualifier) (k : Kind) :
    (ofList qs).get? k = qs.reverse.find? fun q => q.kind = k := by
  rw [ofList, get?_foldl get?_add, get?_empty, Option.or_none]

/-- A set is the set of its list. -/
theorem ofList_toList (s : QualifierSet) : ofList s.toList = s := by
  refine ext_get? fun k => ?_
  rw [get?_ofList]
  cases hfind : s.toList.reverse.find? fun q => q.kind = k with
  | some q =>
    have hq : q ∈ s.toList := List.mem_reverse.mp (List.mem_of_find?_eq_some hfind)
    have hk : q.kind = k := by simpa using List.find?_some hfind
    rw [← hk, mem_toList.mp hq]
  | none =>
    cases hget : s.get? k with
    | none => rfl
    | some q =>
      have hk := kind_of_get? hget
      have hq : q ∈ s.toList.reverse := List.mem_reverse.mpr (mem_toList.mpr (hk ▸ hget))
      exact absurd hk (by simpa using List.find?_eq_none.mp hfind q hq)

/-- The set of a list has a qualifier of a kind exactly if the list has one. -/
theorem isSome_get?_ofList {qs : List Qualifier} {k : Kind} :
    ((ofList qs).get? k).isSome = true ↔ ∃ q ∈ qs, q.kind = k := by
  rw [get?_ofList, List.find?_isSome]
  simp only [List.mem_reverse, decide_eq_true_eq]

/-- A list of strictly ascending kinds is the list of its set. -/
theorem toList_ofList {qs : List Qualifier}
    (h : qs.Pairwise fun a b => a.kind.index < b.kind.index) : (ofList qs).toList = qs := by
  have : Std.Irrefl fun a b : Qualifier => a.kind.index < b.kind.index :=
    ⟨fun _ => Nat.lt_irrefl _⟩
  have : Std.Antisymm fun a b : Qualifier => a.kind.index < b.kind.index :=
    ⟨fun _ _ hab hba => absurd hab (Nat.lt_asymm hba)⟩
  have hkinds : (qs.map Qualifier.kind).Nodup := by
    rw [List.Nodup, List.pairwise_map]
    refine h.imp fun {a b} hlt hk => ?_
    rw [hk] at hlt
    exact Nat.lt_irrefl _ hlt
  refine (toList_ascending _).eq_of_mem_iff h fun q => ?_
  rw [mem_toList, get?_ofList]
  constructor
  · intro hfind
    exact List.mem_reverse.mp (List.mem_of_find?_eq_some hfind)
  · intro hq
    cases hfind : qs.reverse.find? fun p => p.kind = q.kind with
    | none => simpa using List.find?_eq_none.mp hfind q (List.mem_reverse.mpr hq)
    | some p =>
      -- only one qualifier of the list is of this kind
      have hp : p ∈ qs := List.mem_reverse.mp (List.mem_of_find?_eq_some hfind)
      have hk : p.kind = q.kind := by simpa using List.find?_some hfind
      rw [List.inj_on_of_nodup_map hkinds hp hq hk]

end QualifierSet

end ConfigBar
