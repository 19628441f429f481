import ConfigBar.Proofs.Theme.Ancestry
import ConfigBar.Proofs.Theme.Blocks
/-!
# Simple values among the styles

Only styles can be themes, yet a map of styles may hold simple values as well. For the project they
make no difference: a simple value has no parent, so a chain ends with it before it reaches a theme.
The framework goes by names alone, so there a simple value counts if it has the name of a theme.

* `Reaches.isStyle`, `Reaches.exists_link` — a chain that reaches a theme starts with a style and
  leads through styles
* `isTheme_follow_onlyStyles` — the walk comes to the same if the simple values are left out
* `projectThemes_onlyStyles`, `frameworkThemes_onlyStyles` — so do the themes of the project, and
  those of the framework if no simple value has the name of a theme (`HasNoSimpleTheme`)
* `ofStyles_onlyStyles` — all this for the list of themes
-/

namespace ConfigBar

namespace ResourceMap

/-- The styles of a map, without the simple values. -/
def onlyStyles (m : ResourceMap) : ResourceMap := m.filterValues ResourceValue.isStyle

/-- The values of a map that have names of framework themes. -/
def themeNamed (m : ResourceMap) : List ResourceValue :=
  m.values.filter fun v => isFrameworkThemeName v.name

/-- Is every value that has the name of a framework theme a style? -/
def HasNoSimpleTheme (m : ResourceMap) : Prop := ∀ v ∈ m.themeNamed, v.isStyle = true

instance (m : ResourceMap) : Decidable m.HasNoSimpleTheme :=
  inferInstanceAs (Decidable (∀ v ∈ m.themeNamed, v.isStyle = true))

variable {styles : ResourceMap} {value : ResourceValue} {rest : List (String × ResourceValue)}
  {keys : List String} {key name : String}

/-! ## Chains of styles -/

/-- A chain that ends with a theme starts with a style. -/
theorem Reaches.isStyle (h : styles.Reaches value keys) : value.isStyle = true := by
  cases h with
  | framework hparent => exact hparent.isStyle
  | project hparent => exact hparent.isStyle

/-- All links of a chain that ends with a theme are styles. -/
theorem Reaches.exists_link (h : styles.Reaches value keys) (hkey : key ∈ keys) :
    ∃ link, styles.get? key = some link ∧ link.isStyle = true := by
  obtain ⟨link, others, hget, hreaches, -⟩ := h.exists_shorter hkey
  exact ⟨link, hget, hreaches.isStyle⟩

theorem reaches_chain (h : styles.isTheme value = true) :
    styles.Reaches value (styles.chain value).keys := by
  refine reaches_follow (fun k v hv => ?_) h
  rw [find?_leave] at hv
  split at hv
  · cases hv
  · exact hv

/-! ## Walks without simple values -/

/-- The walk finds nothing behind a simple value. -/
theorem isTheme_follow_of_isStyle (h : value.isStyle = false) :
    (follow styles rest value).ending.isTheme = false := by
  cases value with
  | style => cases h
  | simple => rw [follow]; rfl

theorem isTheme_follow_of_find? (h : value.parentStyle? = some ⟨name, false⟩)
    (hfind : SortedMap.find? name rest = none) :
    (follow styles rest value).ending.isTheme = false := by
  rw [follow, h]
  simp only
  split
  · next p hp =>
    rw [hfind] at hp
    cases hp
  · split <;> rfl

theorem filter_filter_comm {α : Type} (p q : α → Bool) (xs : List α) :
    (xs.filter p).filter q = (xs.filter q).filter p := by
  rw [List.filter_filter, List.filter_filter]
  exact List.filter_congr fun _ _ => Bool.and_comm _ _

theorem filter_leave (key : String) (rest : List (String × ResourceValue)) :
    leave key (rest.filter fun e => e.2.isStyle) = (leave key rest).filter fun e => e.2.isStyle :=
  filter_filter_comm _ _ rest

/-- The walk comes to the same if the simple values are left out. -/
theorem isTheme_follow_onlyStyles (others : ResourceMap)
    (h : rest.Pairwise fun a b => compare a.1 b.1 = .lt) :
    (follow others (rest.filter fun e => e.2.isStyle) value).ending.isTheme =
      (follow styles rest value).ending.isTheme := by
  fun_induction follow styles rest value with
  | case1 rest value hparent => rw [follow, hparent]
  | case2 rest value name hparent => rw [follow_framework hparent]
  | case3 rest value name hparent parent hfind chain ih =>
    have hleft := SortedMap.find?_filter h ResourceValue.isStyle name
    rw [hfind] at hleft
    cases hstyle : parent.isStyle with
    | true =>
      rw [follow_project hparent (hleft.trans (Option.filter_some_pos hstyle)), filter_leave]
      exact ih (h.filter _)
    | false =>
      -- one walk misses the simple value, the other one stops there
      rw [isTheme_follow_of_find? hparent (hleft.trans (Option.filter_some_neg (by simp [hstyle])))]
      exact (isTheme_follow_of_isStyle hstyle).symm
  | case4 rest value name hparent hfind =>
    have hleft := SortedMap.find?_filter h ResourceValue.isStyle name
    rw [hfind, Option.filter_none] at hleft
    rw [isTheme_follow_of_find? hparent hleft]
    split <;> rfl

/-- Simple values make nothing a theme of the project. -/
theorem isTheme_onlyStyles (styles : ResourceMap) (value : ResourceValue) :
    styles.onlyStyles.isTheme value = styles.isTheme value := by
  show (follow styles.onlyStyles
      (leave value.name (styles.entries.filter fun e => e.2.isStyle)) value).ending.isTheme =
    (follow styles (leave value.name styles.entries) value).ending.isTheme
  rw [filter_leave]
  exact isTheme_follow_onlyStyles styles.onlyStyles (styles.ascending.filter _)

end ResourceMap

/-! ## Themes without simple values -/

open ResourceMap

variable {styles : ResourceMap}

/-- The themes of the project are the same without simple values. -/
theorem projectThemes_onlyStyles (styles : ResourceMap) :
    projectThemes styles.onlyStyles = projectThemes styles := by
  have hstyles : ∀ v ∈ styles.values, (styles.isTheme v && v.isStyle) = styles.isTheme v := by
    intro v _
    cases htheme : styles.isTheme v with
    | false => rfl
    | true => exact (reaches_chain htheme).isStyle
  have hisTheme : styles.onlyStyles.isTheme = styles.isTheme := funext (isTheme_onlyStyles styles)
  unfold projectThemes
  rw [hisTheme, onlyStyles, SortedMap.values_filterValues, List.filter_filter,
    List.filter_congr hstyles]

theorem frameworkThemes_eq (styles : ResourceMap) :
    frameworkThemes styles = Sorting.sort (styles.themeNamed.map ResourceValue.name) := by
  unfold frameworkThemes themeNamed
  rw [List.filter_map]
  rfl

theorem themeNamed_onlyStyles (styles : ResourceMap) :
    styles.onlyStyles.themeNamed = styles.themeNamed.filter ResourceValue.isStyle := by
  unfold themeNamed onlyStyles
  rw [SortedMap.values_filterValues, filter_filter_comm]

/-- The themes of the framework are the same without simple values, if none of these has the name of
a theme. -/
theorem frameworkThemes_onlyStyles (h : styles.HasNoSimpleTheme) :
    frameworkThemes styles.onlyStyles = frameworkThemes styles := by
  rw [frameworkThemes_eq, frameworkThemes_eq, themeNamed_onlyStyles,
    List.filter_eq_self.mpr h]

/-- Only then they are as many. -/
theorem hasNoSimpleTheme_of_length
    (h : (frameworkThemes styles.onlyStyles).length = (frameworkThemes styles).length) :
    styles.HasNoSimpleTheme := by
  rw [frameworkThemes_eq, frameworkThemes_eq, Sorting.length_sort, Sorting.length_sort,
    List.length_map, List.length_map, themeNamed_onlyStyles] at h
  exact List.length_filter_eq_length_iff.mp h

namespace ThemeList

variable {l : ThemeList} {framework project : Option ResourceMap} {name : String}

theorem framework_mem_entries : .framework name ∈ l.entries ↔ name ∈ l.framework := by
  simp [entries, mem_separators]

theorem project_mem_entries : .project name ∈ l.entries ↔ name ∈ l.project := by
  simp [entries, mem_separators]

theorem exists_style_of_project (h : .project name ∈ (ofStyles framework project).entries) :
    ∃ m ∈ project, ∃ v ∈ m.values, v.isStyle = true ∧ v.name = name := by
  have hname := Sorting.mem_sort.mp (project_mem_entries.mp h)
  cases project with
  | none => cases hname
  | some m =>
    obtain ⟨v, hv, htheme, hvname⟩ := mem_projectThemes.mp hname
    exact ⟨m, rfl, v, hv, (reaches_chain htheme).isStyle, hvname⟩

theorem exists_style_of_framework (hsimple : ∀ m ∈ framework, m.HasNoSimpleTheme)
    (h : .framework name ∈ (ofStyles framework project).entries) :
    ∃ m ∈ framework, ∃ v ∈ m.values, v.isStyle = true ∧ v.name = name := by
  have hname := Sorting.mem_sort.mp (framework_mem_entries.mp h)
  cases framework with
  | none => cases hname
  | some m =>
    obtain ⟨htheme, v, hv, rfl⟩ := mem_frameworkThemes.mp hname
    have hnamed : v ∈ m.themeNamed :=
      List.mem_filter.mpr ⟨hv, isFrameworkThemeName_iff.mpr htheme⟩
    exact ⟨m, rfl, v, hv, hsimple m rfl v hnamed, rfl⟩

theorem ofStyles_project_onlyStyles (framework project : Option ResourceMap) :
    ofStyles framework (project.map onlyStyles) = ofStyles framework project := by
  cases project with
  | none => rfl
  | some m =>
    show ofNames _ (projectThemes m.onlyStyles) = ofNames _ (projectThemes m)
    rw [projectThemes_onlyStyles]

theorem ofStyles_framework_onlyStyles_iff :
    ofStyles (framework.map onlyStyles) project = ofStyles framework project ↔
      ∀ m ∈ framework, m.HasNoSimpleTheme := by
  cases framework with
  | none => simp
  | some m =>
    constructor
    · intro h m' hm
      cases Option.mem_some.mp hm
      -- sorting keeps the number of names
      have hlength := congrArg frameworkCount h
      have hcount : ∀ m : ResourceMap, (ofStyles (some m) project).frameworkCount =
          (frameworkThemes m).length := fun m => Sorting.length_sort _
      rw [Option.map_some, hcount, hcount] at hlength
      exact hasNoSimpleTheme_of_length hlength
    · intro h
      show ofNames (frameworkThemes m.onlyStyles) _ = ofNames (frameworkThemes m) _
      rw [frameworkThemes_onlyStyles (h m rfl)]

/-- **In the project only styles are themes**: the project block has names of styles only, the chain
of a theme leads through styles only, and the list is the same without simple values. For the
framework that holds exactly as far as no simple value has the name of a theme. -/
theorem ofStyles_onlyStyles (framework project : Option ResourceMap) :
    let l := ofStyles framework project
    (∀ name, .project name ∈ l.entries →
      ∃ m ∈ project, ∃ v ∈ m.values, v.isStyle = true ∧ v.name = name) ∧
    (∀ m ∈ project, ∀ v, m.onlyStyles.isTheme v = m.isTheme v ∧
      (m.isTheme v = true → v.isStyle = true ∧
        ∀ key ∈ (m.chain v).keys, ∃ link, m.get? key = some link ∧ link.isStyle = true)) ∧
    ofStyles framework (project.map onlyStyles) = l ∧
    (ofStyles (framework.map onlyStyles) project = l ↔ ∀ m ∈ framework, m.HasNoSimpleTheme) ∧
    ((∀ m ∈ framework, m.HasNoSimpleTheme) → ∀ name, .framework name ∈ l.entries →
      ∃ m ∈ framework, ∃ v ∈ m.values, v.isStyle = true ∧ v.name = name) := by
  intro l
  refine ⟨fun _ => exists_style_of_project, fun m _ v => ⟨isTheme_onlyStyles m v, fun htheme => ?_⟩,
    ofStyles_project_onlyStyles framework project, ofStyles_framework_onlyStyles_iff,
    fun hsimple _ => exists_style_of_framework hsimple⟩
  have hreaches := reaches_chain htheme
  exact ⟨hreaches.isStyle, fun _ hkey => hreaches.exists_link hkey⟩

/-- A simple value with the name of a theme, which is also the parent of a style, in the project. -/
theorem ofStyles_onlyStyles_of_simple_parent :
    let framework := resourceMap [.style "Theme" none, .simple "App.Theme" "x"]
    let project := resourceMap [.simple "Theme" "x", .style "Theme.Big" none,
      .style "Mine" (some "@android:Theme"), .style "Mine.Dark" none]
    let l := ofStyles (some framework) (some project)
    l.labels = ["Theme", "----------", "Mine", "Mine.Dark"] ∧
      ofStyles (some framework.onlyStyles) (some project.onlyStyles) = l ∧
      ∃ v ∈ framework.values, v.isStyle = true ∧ v.name = "Theme" := by
  intro framework project l
  have hsimple : ∀ m ∈ some framework, m.HasNoSimpleTheme := by
    intro m hm
    cases Option.mem_some.mp hm
    decide
  have hentries : .framework "Theme" ∈ l.entries := by decide +kernel
  obtain ⟨-, -, hproject, -, -⟩ := ofStyles_onlyStyles (some framework.onlyStyles) (some project)
  obtain ⟨-, -, -, hframework, hstyles⟩ := ofStyles_onlyStyles (some framework) (some project)
  obtain ⟨m, hm, hstyle⟩ := hstyles hsimple "Theme" hentries
  cases hm
  exact ⟨by decide +kernel, hproject.trans (hframework.mpr hsimple), hstyle⟩

/-- A simple value of the framework that is called as a theme stands among the themes. -/
theorem simple_value_among_framework_themes :
    let framework := resourceMap [.simple "Theme" "x"]
    (ofStyles (some framework) none).entries = [.framework "Theme"] ∧
      ∀ v ∈ framework.values, v.isStyle = false := by
  decide +kernel

end ThemeList

end ConfigBar
