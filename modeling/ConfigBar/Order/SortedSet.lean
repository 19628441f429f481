/-!
# Sorted sets

A finite set is the strictly ascending list of its items. The list is unique for a set, so two sets
with the same items are equal (`SortedSet.ext`).
-/

namespace ConfigBar

open Std (TransOrd LawfulEqOrd)

/-- A finite set, held in strictly ascending order. -/
structure SortedSet (κ : Type) [Ord κ] where
  items : List κ
  ascending : items.Pairwise fun a b => compare a b = .lt

namespace SortedSet

variable {κ : Type} [Ord κ]

instance [DecidableEq κ] : DecidableEq (SortedSet κ) := fun a b =>
  if h : a.items = b.items then isTrue (by cases a; cases b; cases h; rfl)
  else isFalse fun e => h (by rw [e])

instance : EmptyCollection (SortedSet κ) := ⟨⟨[], .nil⟩⟩

instance : Inhabited (SortedSet κ) := ⟨∅⟩

/-- The items in ascending order. -/
def toList (s : SortedSet κ) : List κ := s.items

instance : Membership κ (SortedSet κ) := ⟨fun s k => k ∈ s.items⟩

/-- Puts an item into its place in an ascending list. -/
def insertItem (k : κ) : List κ → List κ
  | [] => [k]
  | x :: xs =>
    match compare k x with
    | .lt => k :: x :: xs
    | .eq => k :: xs
    | .gt => x :: insertItem k xs

@[simp] theorem mem_insertItem [LawfulEqOrd κ] {k a : κ} {xs : List κ} :
    a ∈ insertItem k xs ↔ a = k ∨ a ∈ xs := by
  induction xs with
  | nil => simp [insertItem]
  | cons x xs ih =>
    rw [insertItem]
    split
    · simp
    · next h =>
      cases LawfulEqOrd.eq_of_compare h
      simp
    · simp only [List.mem_cons, ih]
      exact or_left_comm

theorem ascending_insertItem [TransOrd κ] [LawfulEqOrd κ] (k : κ) {xs : List κ}
    (h : xs.Pairwise fun a b => compare a b = .lt) :
    (insertItem k xs).Pairwise fun a b => compare a b = .lt := by
  induction xs with
  | nil => simp [insertItem]
  | cons x xs ih =>
    obtain ⟨hx, hxs⟩ := List.pairwise_cons.1 h
    rw [insertItem]
    split
    · next hk =>
      refine List.pairwise_cons.2 ⟨fun a ha => ?_, h⟩
      rcases List.mem_cons.1 ha with rfl | ha
      · exact hk
      · exact Std.TransCmp.lt_trans hk (hx a ha)
    · next hk =>
      cases LawfulEqOrd.eq_of_compare hk
      exact h
    · next hk =>
      refine List.pairwise_cons.2 ⟨fun a ha => ?_, ih hxs⟩
      rcases mem_insertItem.1 ha with rfl | ha
      · exact Std.OrientedCmp.gt_iff_lt.1 hk
      · exact hx a ha

@[simp] theorem not_mem_empty (a : κ) : a ∉ (∅ : SortedSet κ) := List.not_mem_nil

variable [TransOrd κ] [LawfulEqOrd κ]

/-- Adds an item. -/
def insert (k : κ) (s : SortedSet κ) : SortedSet κ :=
  ⟨insertItem k s.items, ascending_insertItem k s.ascending⟩

/-- The set of the items of a list. -/
def ofList (ks : List κ) : SortedSet κ := ks.foldl (fun s k => s.insert k) ∅

@[simp] theorem mem_insert {k a : κ} {s : SortedSet κ} : a ∈ s.insert k ↔ a = k ∨ a ∈ s :=
  mem_insertItem

omit [LawfulEqOrd κ] in
/-- An ascending list is determined by its items. -/
theorem eq_of_mem_iff {xs ys : List κ} (hx : xs.Pairwise fun a b => compare a b = .lt)
    (hy : ys.Pairwise fun a b => compare a b = .lt) (h : ∀ a, a ∈ xs ↔ a ∈ ys) : xs = ys := by
  induction xs generalizing ys with
  | nil =>
    cases ys with
    | nil => rfl
    | cons y ys => exact absurd ((h y).2 List.mem_cons_self) List.not_mem_nil
  | cons x xs ih =>
    cases ys with
    | nil => exact absurd ((h x).1 List.mem_cons_self) List.not_mem_nil
    | cons y ys =>
      obtain ⟨hx1, hx2⟩ := List.pairwise_cons.1 hx
      obtain ⟨hy1, hy2⟩ := List.pairwise_cons.1 hy
      have irrefl : ∀ a : κ, compare a a ≠ .lt := fun a h => by
        rw [Std.ReflOrd.compare_self] at h
        cases h
      have hxy : x = y := by
        rcases List.mem_cons.1 ((h x).1 List.mem_cons_self) with e | hm
        · exact e
        · rcases List.mem_cons.1 ((h y).2 List.mem_cons_self) with e | hm'
          · exact e.symm
          · exact absurd (Std.TransCmp.lt_trans (hx1 y hm') (hy1 x hm)) (irrefl x)
      subst hxy
      congr 1
      refine ih hx2 hy2 fun a => ⟨fun ha => ?_, fun ha => ?_⟩
      · rcases List.mem_cons.1 ((h a).1 (List.mem_cons_of_mem _ ha)) with rfl | h'
        · exact absurd (hx1 _ ha) (irrefl _)
        · exact h'
      · rcases List.mem_cons.1 ((h a).2 (List.mem_cons_of_mem _ ha)) with rfl | h'
        · exact absurd (hy1 _ ha) (irrefl _)
        · exact h'

omit [LawfulEqOrd κ] in
/-- Two sets with the same items are equal. -/
theorem ext {s t : SortedSet κ} (h : ∀ a, a ∈ s ↔ a ∈ t) : s = t := by
  have := eq_of_mem_iff s.ascending t.ascending h
  cases s
  cases t
  cases this
  rfl

@[simp] theorem mem_ofList {a : κ} {ks : List κ} : a ∈ ofList ks ↔ a ∈ ks := by
  have key : ∀ (ks : List κ) (s : SortedSet κ),
      a ∈ ks.foldl (fun s k => s.insert k) s ↔ a ∈ s ∨ a ∈ ks := by
    intro ks
    induction ks with
    | nil => simp
    | cons k ks ih =>
      intro s
      rw [List.foldl_cons, ih, mem_insert, List.mem_cons, or_assoc]
      exact or_left_comm
  rw [ofList, key]
  simp

end SortedSet

end ConfigBar
