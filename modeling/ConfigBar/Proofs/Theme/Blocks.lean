import ConfigBar.Proofs.Theme.Entries
import ConfigBar.Proofs.Theme.Parents
/-!
# The blocks of the list of themes

The entries of the list of themes are two blocks of names in strictly ascending order, with a
separator between them. A name is looked up at the first theme that has it.

* `hasBlocks_ofNames` — the entries of the list of given names
* `isPlace_position?`, `IsPlace.unique` — a name is looked up at the first theme that has it
* `findsThemes` — which place that is for the themes of either block, if no entry is repeated
* `mem_frameworkThemes`, `mem_projectThemes` — the names that come from styles
* `ofStyles_exact` — all this for the list of the styles
-/

namespace ConfigBar

/-- Is the entry a theme of the given name? The separator is none, whatever its label. -/
def ThemeEntry.IsNamed (name : String) (e : ThemeEntry) : Prop :=
  e = .framework name ∨ e = .project name

theorem ThemeEntry.isNamed_iff {name : String} {e : ThemeEntry} :
    e.IsNamed name ↔ (!e.isSeparator && e.label == name) = true := by
  cases e <;> simp [IsNamed, isSeparator, label]

namespace ThemeList

variable {l : ThemeList} {i j : Nat} {e : ThemeEntry} {name : String}

/-! ## Entries -/

/-- The entries are two blocks of names in strictly ascending order, with one separator between them
if neither is empty. -/
structure HasBlocks (l : ThemeList) (framework project : List String) : Prop where
  entries_eq : l.entries = framework.map .framework ++
    (if framework ≠ [] ∧ project ≠ [] then [.separator] else []) ++ project.map .project
  frameworkCount_eq : l.frameworkCount = framework.length
  projectCount_eq : l.projectCount = project.length
  ascending_framework : framework.Pairwise fun a b => compare a b = .lt
  ascending_project : project.Pairwise fun a b => compare a b = .lt

theorem hasBlocks_ofNames {framework project : List String} (hf : framework.Nodup)
    (hp : project.Nodup) :
    (ofNames framework project).HasBlocks (Sorting.sort framework) (Sorting.sort project) where
  entries_eq := by
    have hseparators : (ofNames framework project).separators =
        if Sorting.sort framework ≠ [] ∧ Sorting.sort project ≠ [] then [.separator] else [] := by
      unfold separators ofNames
      cases Sorting.sort framework <;> cases Sorting.sort project <;> rfl
    rw [← hseparators]
    rfl
  frameworkCount_eq := rfl
  projectCount_eq := rfl
  ascending_framework := Sorting.ascending_sort hf
  ascending_project := Sorting.ascending_sort hp

/-- No entry is repeated if no name is repeated in its block. -/
theorem nodup_entries (hf : l.framework.Nodup) (hp : l.project.Nodup) : l.entries.Nodup := by
  have hframework : (l.framework.map ThemeEntry.framework).Nodup := by
    rw [List.Nodup, List.pairwise_map]
    exact hf.imp fun hne h => hne (ThemeEntry.framework.inj h)
  have hproject : (l.project.map ThemeEntry.project).Nodup := by
    rw [List.Nodup, List.pairwise_map]
    exact hp.imp fun hne h => hne (ThemeEntry.project.inj h)
  have hseparators : l.separators.Nodup := by
    unfold separators
    split <;> simp
  unfold entries
  rw [List.nodup_append, List.nodup_append]
  refine ⟨⟨hframework, hseparators, ?_⟩, hproject, ?_⟩
  · rintro a ha b hb rfl
    obtain ⟨n, -, rfl⟩ := List.mem_map.mp ha
    cases (mem_separators.mp hb).1
  · rintro a ha b hb rfl
    obtain ⟨n, -, rfl⟩ := List.mem_map.mp hb
    rcases List.mem_append.mp ha with ha | ha
    · obtain ⟨m, -, hm⟩ := List.mem_map.mp ha
      cases hm
    · cases (mem_separators.mp ha).1

/-- The framework themes are the entries that do not belong to the project. -/
theorem isProjectTheme_eq_false_iff (h : l.get? i = some e) :
    l.isProjectTheme i = false ↔ ∃ name, e = .framework name := by
  unfold isProjectTheme
  rw [decide_eq_false_iff_not, Nat.not_le]
  rcases get?_cases h with ⟨hi, n, rfl⟩ | ⟨hi, rfl | ⟨n, rfl⟩⟩
  · simpa using hi
  · simpa using hi
  · simpa using hi

/-! ## Names -/

/-- A place of a name: the index of the first theme with the name, or none if no theme has it. -/
def IsPlace (l : ThemeList) (name : String) : Option Nat → Prop
  | some i => (∃ e, l.get? i = some e ∧ e.IsNamed name) ∧
      ∀ j < i, ∀ e, l.get? j = some e → ¬e.IsNamed name
  | none => ∀ e ∈ l.entries, ¬e.IsNamed name

theorem isPlace_position? (l : ThemeList) (name : String) : l.IsPlace name (l.position? name) := by
  unfold position?
  cases hi : l.entries.findIdx? fun e => !e.isSeparator && e.label == name with
  | some i =>
    obtain ⟨hlt, hnamed, hbefore⟩ := List.findIdx?_eq_some_iff_getElem.mp hi
    refine ⟨⟨l.entries[i], List.getElem?_eq_getElem hlt, ThemeEntry.isNamed_iff.mpr hnamed⟩, ?_⟩
    intro j hj e he hn
    obtain ⟨hjlt, rfl⟩ := List.getElem?_eq_some_iff.mp he
    exact hbefore j hj (ThemeEntry.isNamed_iff.mp hn)
  | none =>
    intro e he hn
    have hnone := List.findIdx?_eq_none_iff.mp hi e he
    rw [ThemeEntry.isNamed_iff.mp hn] at hnone
    cases hnone

/-- A name has one place. -/
theorem IsPlace.unique {p q : Option Nat} (hp : l.IsPlace name p) (hq : l.IsPlace name q) :
    p = q := by
  cases p with
  | none =>
    cases q with
    | none => rfl
    | some j =>
      obtain ⟨⟨e, he, hn⟩, -⟩ := hq
      exact absurd hn (hp e (List.mem_of_getElem? he))
  | some i =>
    obtain ⟨⟨e, he, hn⟩, hbefore⟩ := hp
    cases q with
    | none => exact absurd hn (hq e (List.mem_of_getElem? he))
    | some j =>
      obtain ⟨⟨e', he', hn'⟩, hbefore'⟩ := hq
      -- neither place is before the other
      rcases Nat.lt_trichotomy i j with hlt | rfl | hgt
      · exact absurd hn (hbefore' i hlt e he)
      · rfl
      · exact absurd hn' (hbefore j hgt e' he')

theorem eq_of_get?_eq (h : l.entries.Nodup) (hi : l.get? i = some e) (hj : l.get? j = some e) :
    i = j := by
  obtain ⟨hlt, -⟩ := List.getElem?_eq_some_iff.mp hi
  exact (List.getElem?_inj hlt h).mp (hi.trans hj.symm)

/-- A framework theme is found at its own place. -/
theorem position?_framework (h : l.entries.Nodup) (hi : l.get? i = some (.framework name)) :
    l.position? name = some i := by
  refine (l.isPlace_position? name).unique ⟨⟨_, hi, Or.inl rfl⟩, ?_⟩
  rintro j hj e he (rfl | rfl)
  · exact Nat.ne_of_lt hj (eq_of_get?_eq h he hi)
  · -- the themes of the project stand behind those of the framework
    have hlt : i < l.framework.length := by
      simpa [isProjectTheme] using (isProjectTheme_eq_false_iff hi).mpr ⟨name, rfl⟩
    have hge : l.framework.length ≤ j := by
      simpa [isProjectTheme] using mt (isProjectTheme_eq_false_iff he).mp (by simp)
    omega

/-- A project theme is found at its own place, unless a framework theme has its name. -/
theorem position?_project (h : l.entries.Nodup) (hi : l.get? i = some (.project name))
    (hname : .framework name ∉ l.entries) : l.position? name = some i := by
  refine (l.isPlace_position? name).unique ⟨⟨_, hi, Or.inr rfl⟩, ?_⟩
  rintro j hj e he (rfl | rfl)
  · exact hname (List.mem_of_getElem? he)
  · exact Nat.ne_of_lt hj (eq_of_get?_eq h he hi)

/-- The separator is no place of a name. -/
theorem get?_ne_separator_of_position? (h : l.position? name = some i) :
    l.get? i ≠ some .separator := by
  intro hi
  have hplace := l.isPlace_position? name
  rw [h] at hplace
  obtain ⟨⟨e, he, hn⟩, -⟩ := hplace
  cases hi.symm.trans he
  rcases hn with hn | hn <;> cases hn

/-- A name is looked up at the first theme with the name: at a framework theme itself, at a project
theme itself unless the framework has its name, and never at the separator. -/
structure FindsThemes (l : ThemeList) : Prop where
  isPlace : ∀ name, l.IsPlace name (l.position? name)
  framework : ∀ name i, l.get? i = some (.framework name) → l.position? name = some i
  project : ∀ name i, l.get? i = some (.project name) → .framework name ∉ l.entries →
    l.position? name = some i
  ne_separator : ∀ name i, l.position? name = some i → l.get? i ≠ some .separator

theorem findsThemes (h : l.entries.Nodup) : l.FindsThemes where
  isPlace := l.isPlace_position?
  framework _ _ := position?_framework h
  project _ _ := position?_project h
  ne_separator _ _ := get?_ne_separator_of_position?

end ThemeList

/-! ## Styles -/

section Styles

variable {styles : ResourceMap} {name : String}

theorem nodup_frameworkThemes (h : styles.IsKeyedByName) : (frameworkThemes styles).Nodup :=
  (Sorting.perm_sort _).nodup_iff.mpr (h.nodup_names.filter _)

theorem nodup_projectThemes (h : styles.IsKeyedByName) : (projectThemes styles).Nodup := by
  have hsub : ((styles.values.filter styles.isTheme).map ResourceValue.name).Sublist
      (styles.values.map ResourceValue.name) := List.filter_sublist.map _
  exact (Sorting.perm_sort _).nodup_iff.mpr (hsub.nodup h.nodup_names)

theorem mem_frameworkThemes :
    name ∈ frameworkThemes styles ↔
      IsThemeName name ∧ ∃ v ∈ styles.values, v.name = name := by
  unfold frameworkThemes
  rw [Sorting.mem_sort, List.mem_filter, List.mem_map, and_comm, isFrameworkThemeName_iff]

theorem mem_projectThemes :
    name ∈ projectThemes styles ↔ ∃ v ∈ styles.values, styles.isTheme v = true ∧ v.name = name := by
  unfold projectThemes
  rw [Sorting.mem_sort, List.mem_map]
  simp only [List.mem_filter, and_assoc]

end Styles

namespace ThemeList

/-- **The list of the themes among the styles.** If all styles are stored under their own names,
its blocks are the names in the framework that are theme names and the names of the values of the
project that are themes. The framework block is what does not belong to the project, and themes are
found by their names. -/
theorem ofStyles_exact (framework project : Option ResourceMap)
    (hframework : ∀ m ∈ framework, m.IsKeyedByName) (hproject : ∀ m ∈ project, m.IsKeyedByName) :
    let l := ofStyles framework project
    (∃ fs ps, l.HasBlocks fs ps ∧
      (∀ name, name ∈ fs ↔
        IsThemeName name ∧ ∃ m ∈ framework, ∃ v ∈ m.values, v.name = name) ∧
      ∀ name, name ∈ ps ↔ ∃ m ∈ project, ∃ v ∈ m.values, m.isTheme v = true ∧ v.name = name) ∧
    (∀ i e, l.get? i = some e → (l.isProjectTheme i = false ↔ ∃ name, e = .framework name)) ∧
    l.FindsThemes := by
  intro l
  have hfs : (framework.elim [] frameworkThemes).Nodup := by
    cases framework with
    | none => exact List.nodup_nil
    | some m => exact nodup_frameworkThemes (hframework m rfl)
  have hps : (project.elim [] projectThemes).Nodup := by
    cases project with
    | none => exact List.nodup_nil
    | some m => exact nodup_projectThemes (hproject m rfl)
  refine ⟨⟨_, _, hasBlocks_ofNames hfs hps, fun name => ?_, fun name => ?_⟩,
    fun _ _ => isProjectTheme_eq_false_iff, findsThemes (nodup_entries ?_ ?_)⟩
  · rw [Sorting.mem_sort]
    cases framework with
    | none => simp
    | some m => simp [mem_frameworkThemes]
  · rw [Sorting.mem_sort]
    cases project with
    | none => simp
    | some m => simp [mem_projectThemes]
  · exact (Sorting.perm_sort _).nodup_iff.mpr hfs
  · exact (Sorting.perm_sort _).nodup_iff.mpr hps

/-- A project theme with the name of a framework theme is passed over, and one with the label of the
separator is found. -/
theorem ofStyles_exact_of_shared_names :
    let framework := resourceMap [.style "Theme.Light" none, .style "Theme" none,
      .style "Widget" none]
    let project := resourceMap [.style "Theme" (some "@android:style/Theme.Light"),
      .style "----------" (some "@android:Theme"), .style "Plain" none]
    let l := ofStyles (some framework) (some project)
    framework.IsKeyedByName ∧ project.IsKeyedByName ∧
      l.entries = [.framework "Theme", .framework "Theme.Light", .separator,
        .project "----------", .project "Theme"] ∧
      l.position? "Theme" = some 0 ∧ l.position? "----------" = some 3 := by
  intro framework project l
  have hframework : framework.IsKeyedByName := by decide
  have hproject : project.IsKeyedByName := by decide
  have hentries : l.entries = [.framework "Theme", .framework "Theme.Light", .separator,
      .project "----------", .project "Theme"] := by decide +kernel
  obtain ⟨-, -, hfinds⟩ := ofStyles_exact (some framework) (some project)
    (fun m hm => Option.mem_some.mp hm ▸ hframework) (fun m hm => Option.mem_some.mp hm ▸ hproject)
  refine ⟨hframework, hproject, hentries, hfinds.framework "Theme" 0 ?_,
    hfinds.project "----------" 3 ?_ ?_⟩
  · exact congrArg (fun es => es[0]?) hentries
  · exact congrArg (fun es => es[3]?) hentries
  · rw [show (ofStyles (some framework) (some project)).entries = _ from hentries]
    decide

end ThemeList

end ConfigBar
