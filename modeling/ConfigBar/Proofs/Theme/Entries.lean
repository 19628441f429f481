import ConfigBar.Theme.List
/-!
# The entries of the list of themes

The entries are the themes of the framework, a separator that only stands between two blocks, and
the themes of the project.

* `get?_cases` — what stands before the end of the framework block, and what from there on
* `isProjectTheme_iff` — for a theme, the comparison of its index with that end tells the owner
* `IsSelection` — which index a selection may have: that of a theme, or none in an empty list
* `isSelection_restore`, `isSelection_choose` — a list that replaces another one, and the choice of
  an entry, lead to such an index
* `restore_of_isSelection` — a list that replaces an equal one leaves such an index alone
-/

namespace ConfigBar

namespace ThemeEntry

theorem isSeparator_iff {e : ThemeEntry} : e.isSeparator = true ↔ e = .separator := by
  cases e <;> simp [isSeparator]

end ThemeEntry

namespace ThemeList

variable {l : ThemeList} {i : Nat} {e : ThemeEntry}

/-! ## The two blocks -/

theorem mem_separators : e ∈ l.separators ↔ e = .separator ∧ l.framework ≠ [] ∧ l.project ≠ [] := by
  unfold separators
  cases l.framework <;> cases l.project <;> simp

/-- The themes of the framework stand before the end of their block. From there on there are the
separator and the themes of the project. -/
theorem get?_cases (h : l.get? i = some e) :
    (i < l.framework.length ∧ ∃ name, e = .framework name) ∨
      (l.framework.length ≤ i ∧ (e = .separator ∨ ∃ name, e = .project name)) := by
  unfold get? entries at h
  rw [List.append_assoc] at h
  by_cases hi : i < l.framework.length
  · rw [List.getElem?_append_left (by simpa using hi), List.getElem?_map] at h
    obtain ⟨name, -, rfl⟩ := Option.map_eq_some_iff.mp h
    exact Or.inl ⟨hi, name, rfl⟩
  · have hle : l.framework.length ≤ i := Nat.le_of_not_lt hi
    rw [List.getElem?_append_right (by simpa using hle)] at h
    refine Or.inr ⟨hle, ?_⟩
    rcases List.mem_append.mp (List.mem_of_getElem? h) with hm | hm
    · exact Or.inl (mem_separators.mp hm).1
    · obtain ⟨name, -, rfl⟩ := List.mem_map.mp hm
      exact Or.inr ⟨name, rfl⟩

/-- For a theme, the place behind the framework block tells that it belongs to the project. -/
theorem isProjectTheme_iff (h : l.get? i = some e) (he : e ≠ .separator) :
    l.isProjectTheme i = true ↔ ∃ name, e = .project name := by
  unfold isProjectTheme
  rw [decide_eq_true_eq]
  rcases get?_cases h with ⟨hi, name, rfl⟩ | ⟨hi, rfl | ⟨name, rfl⟩⟩
  · simpa using hi
  · exact absurd rfl he
  · simpa using hi

/-- The separator is never the first entry. -/
theorem get?_zero_ne_separator : l.get? 0 ≠ some .separator := by
  intro h
  have hmem : ThemeEntry.separator ∈ l.separators := by
    have hentries := List.mem_of_getElem? h
    unfold entries at hentries
    simpa using hentries
  obtain ⟨-, hframework, -⟩ := mem_separators.mp hmem
  rcases get?_cases h with ⟨-, name, he⟩ | ⟨hi, -⟩
  · cases he
  · exact hframework (List.length_eq_zero_iff.mp (Nat.le_zero.mp hi))

/-! ## Selections -/

/-- A selection is the index of a theme, or none if there are no entries. -/
def IsSelection (l : ThemeList) : Option Nat → Prop
  | none => l.entries = []
  | some i => ∃ e, l.get? i = some e ∧ e ≠ .separator

theorem isSelection_zero (h : l.entries ≠ []) : l.IsSelection (some 0) := by
  obtain ⟨e, es, hes⟩ := List.exists_cons_of_ne_nil h
  have hget : l.get? 0 = some e := by rw [get?, hes, List.getElem?_cons_zero]
  refine ⟨e, hget, ?_⟩
  rintro rfl
  exact get?_zero_ne_separator hget

/-- The choice of any entry leads to a theme: the separator stands for the first one. -/
theorem isSelection_choose (h : l.get? i = some e) :
    l.IsSelection (some (if e.isSeparator then 0 else i)) := by
  by_cases he : e = .separator
  · rw [if_pos (ThemeEntry.isSeparator_iff.mpr he)]
    exact isSelection_zero (List.ne_nil_of_mem (List.mem_of_getElem? h))
  · rw [if_neg (mt ThemeEntry.isSeparator_iff.mp he)]
    exact ⟨e, h, he⟩

/-- Whatever was selected in another list, a list leads to a selection of its own. -/
theorem isSelection_restore (l : ThemeList) (previous : Option Nat) :
    l.IsSelection (l.restore previous) := by
  unfold restore
  split
  · next hempty => exact List.isEmpty_iff.mp hempty
  · next hempty =>
    have hne : l.entries ≠ [] := mt List.isEmpty_iff.mpr hempty
    split
    · exact isSelection_zero hne
    · split
      · next e he =>
        split
        · exact isSelection_zero hne
        · next hs => exact ⟨e, he, mt ThemeEntry.isSeparator_iff.mpr hs⟩
      · exact isSelection_zero hne

/-- A selection of a list stays if the list is replaced by an equal one. -/
theorem restore_of_isSelection {selection : Option Nat} (h : l.IsSelection selection) :
    l.restore selection = selection := by
  unfold restore
  cases selection with
  | none =>
    have hempty : l.isEmpty = true := List.isEmpty_iff.mpr h
    rw [if_pos hempty]
  | some i =>
    obtain ⟨e, he, hs⟩ := h
    have hempty : l.isEmpty = false :=
      List.isEmpty_eq_false_iff.mpr (List.ne_nil_of_mem (List.mem_of_getElem? he))
    have hseparator : e.isSeparator = false :=
      Bool.eq_false_iff.mpr (mt ThemeEntry.isSeparator_iff.mp hs)
    simp only [hempty, he, hseparator, Bool.false_eq_true, if_false]

/-- Without a selection before, the first entry is selected. -/
theorem get?_restore_none (l : ThemeList) : (l.restore none).bind l.get? = l.entries.head? := by
  unfold restore
  split
  · next hempty =>
    rw [List.isEmpty_iff.mp hempty]
    rfl
  · rw [List.head?_eq_getElem?]
    rfl

end ThemeList

end ConfigBar
