/-!
# Sorting

Insertion sort by the order of the items, with the facts that the result has the same items as
often and is in order, strictly if no item is repeated.
-/

namespace ConfigBar.Sorting

open Std (TransOrd LawfulEqOrd)

variable {κ : Type} [Ord κ]

/-- Puts an item in front of the first item that is not smaller. -/
def insert (k : κ) : List κ → List κ
  | [] => [k]
  | x :: xs => if (compare k x).isLE then k :: x :: xs else x :: insert k xs

/-- The items in order. -/
def sort : List κ → List κ
  | [] => []
  | x :: xs => insert x (sort xs)

theorem perm_insert (k : κ) (xs : List κ) : (insert k xs).Perm (k :: xs) := by
  induction xs with
  | nil => exact .refl _
  | cons x xs ih =>
    rw [insert]
    split
    · exact .refl _
    · exact (ih.cons x).trans (.swap k x xs)

theorem perm_sort (xs : List κ) : (sort xs).Perm xs := by
  induction xs with
  | nil => exact .refl _
  | cons x xs ih => exact (perm_insert x _).trans (ih.cons x)

@[simp] theorem length_sort (xs : List κ) : (sort xs).length = xs.length :=
  (perm_sort xs).length_eq

@[simp] theorem mem_sort {a : κ} {xs : List κ} : a ∈ sort xs ↔ a ∈ xs :=
  (perm_sort xs).mem_iff

theorem pairwise_insert [TransOrd κ] (k : κ) {xs : List κ}
    (h : xs.Pairwise fun a b => (compare a b).isLE) :
    (insert k xs).Pairwise fun a b => (compare a b).isLE := by
  induction xs with
  | nil => simp [insert]
  | cons x xs ih =>
    obtain ⟨hx, hxs⟩ := List.pairwise_cons.1 h
    rw [insert]
    split
    · next hk =>
      refine List.pairwise_cons.2 ⟨fun a ha => ?_, h⟩
      rcases List.mem_cons.1 ha with rfl | ha
      · exact hk
      · exact Std.TransCmp.isLE_trans hk (hx a ha)
    · next hk =>
      refine List.pairwise_cons.2 ⟨fun a ha => ?_, ih hxs⟩
      rcases List.mem_cons.1 ((perm_insert k xs).mem_iff.1 ha) with rfl | ha
      · have swap : compare x a = (compare a x).swap := Std.OrientedCmp.eq_swap
        rw [swap]
        cases h : compare a x <;> simp_all
      · exact hx a ha

/-- The result is in order. -/
theorem pairwise_sort [TransOrd κ] (xs : List κ) :
    (sort xs).Pairwise fun a b => (compare a b).isLE := by
  induction xs with
  | nil => exact .nil
  | cons x xs ih => exact pairwise_insert x ih

/-- Items of which none is repeated come out in strictly ascending order. -/
theorem ascending_sort [TransOrd κ] [LawfulEqOrd κ] {xs : List κ} (h : xs.Nodup) :
    (sort xs).Pairwise fun a b => compare a b = .lt := by
  have hnodup : (sort xs).Nodup := (perm_sort xs).nodup_iff.2 h
  refine ((pairwise_sort xs).and hnodup).imp ?_
  rintro a b ⟨hle, hne⟩
  cases hab : compare a b with
  | lt => rfl
  | eq => exact absurd (LawfulEqOrd.eq_of_compare hab) hne
  | gt =>
    rw [hab] at hle
    cases hle

end ConfigBar.Sorting
