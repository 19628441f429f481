import ConfigBar.Proofs.Controller.After
import ConfigBar.Proofs.Locale.Position
import ConfigBar.Proofs.Resolver.Parts
import ConfigBar.Proofs.Theme.Entries
/-!
# The selected theme and the selected locale

Both are kept as indices beside the lists that they point into, and the lists are replaced as a
whole. In every reachable state the index of the theme is that of a theme, and the index of the
locale is the place of the language and the region of the effective configuration.

* `invariant_of_after` — an invariant that does not speak of rebuilds is one of `after`
* `selects_theme` — what single requests do to the themes
* `locale_after`, `places_locale` — devices and variants do not touch the language and the region,
  so an index stays right until the locales or these two change, and then it is set anew
-/

namespace ConfigBar

namespace Controller

/-- A property that does not speak of rebuilds and notices is an invariant if `after` keeps it. -/
theorem invariant_of_after {I : Controller → Prop} (alike : ∀ {a b}, Alike a b → I a → I b)
    (start : ∀ listening toggles, I (initial listening toggles))
    (step : ∀ c r, I c → I (c.after r)) : Invariant I where
  initial := start
  single c r hr hc := alike (alike_after c hr) (step c r hc)
  enter c := alike (alike_enter c)
  close c broken := alike (alike_close c broken)

/-! ## The selected theme -/

/-- The index of the selected theme is that of a theme of the list. -/
def SelectsTheme (c : Controller) : Prop := c.themes.IsSelection c.themeIndex

theorem selects_theme (c : Controller) (r : Request) (h : c.SelectsTheme) :
    (c.after r).SelectsTheme := by
  show (c.beside r).themes.IsSelection (c.beside r).themeIndex
  cases r with
  | start p => exact ThemeList.isSelection_restore _ _
  | updateResources p => exact ThemeList.isSelection_restore _ _
  | selectTheme i =>
    simp only [beside]
    cases he : c.themes.get? i with
    | some e => exact ThemeList.isSelection_choose he
    | none => exact h
  | selectLocale i =>
    simp only [beside]
    split <;> exact h
  | typeLocale text =>
    simp only [beside]
    split <;> exact h
  | setClipping on =>
    simp only [beside]
    split <;> exact h
  | setToggle i on =>
    simp only [beside]
    split <;> exact h
  | _ => exact h

theorem invariant_selectsTheme : Invariant SelectsTheme :=
  invariant_of_after (by rintro a _ ⟨d, q, rfl⟩ h; exact h) (fun _ _ => rfl) selects_theme

theorem theme?_of_themeIndex {c : Controller} {i : Nat} {e : ThemeEntry}
    (hi : c.themeIndex = some i) (he : c.themes.get? i = some e) : c.theme? = some e.label := by
  rw [theme?, hi, Option.bind_some, he, Option.map_some]

theorem isProjectTheme_of_themeIndex {c : Controller} {i : Nat} (hi : c.themeIndex = some i) :
    c.isProjectTheme = c.themes.isProjectTheme i := by
  rw [isProjectTheme, hi, Option.any_some]

/-- **A theme is selected as long as there is one.** In every reachable state no theme is selected
exactly if the list is empty. Else the index is that of a theme, `theme?` is its name, and
`isProjectTheme` tells whether it belongs to the project. -/
theorem theme_of_reachable {c : Controller} (h : Reachable c) :
    (c.themeIndex = none ↔ c.themes.entries = []) ∧
      ∀ i, c.themeIndex = some i →
        ∃ e, c.themes.entries[i]? = some e ∧ e ≠ .separator ∧ c.theme? = some e.label ∧
          (c.isProjectTheme = true ↔ ∃ name, e = .project name) := by
  have hselects : c.themes.IsSelection c.themeIndex := invariant_selectsTheme.of_reachable h
  cases hi : c.themeIndex with
  | none =>
    rw [hi] at hselects
    exact ⟨⟨fun _ => hselects, fun _ => rfl⟩, nofun⟩
  | some i =>
    rw [hi] at hselects
    obtain ⟨e, he, hs⟩ := hselects
    have hne : c.themes.entries ≠ [] := List.ne_nil_of_mem (List.mem_of_getElem? he)
    refine ⟨⟨nofun, fun hempty => absurd hempty hne⟩, ?_⟩
    rintro _ ⟨⟩
    refine ⟨e, he, hs, theme?_of_themeIndex hi he, ?_⟩
    rw [isProjectTheme_of_themeIndex hi]
    exact ThemeList.isProjectTheme_iff he hs

/-- A provider of framework themes with the given names and of one project theme. -/
def themeProvider (names : List String) : Provider where
  framework := some ∅
  project := some ∅
  frameworkValues := some (.ofList [(.style, resourceMap (names.map fun n => .style n none))])
  projectValues := some (.ofList [(.style, resourceMap [.style "Mine" (some "@android:Theme")])])
  devices := []

/-- The framework block grows in a rebuild that breaks off, and the separator comes to stand at the
index of the project theme that was selected: the first theme is selected instead. -/
theorem theme_of_reachable_of_moved_separator :
    let c := (initial true []).run
      [.updateResources (themeProvider ["Theme", "Theme.Light"]), .selectTheme 3,
        .rebuild [.updateResources (themeProvider ["Theme", "Theme.Dark", "Theme.Light"])] true]
    c.themes.entries[3]? = some .separator ∧ c.themeIndex = some 0 ∧
      ∃ e, c.themes.entries[0]? = some e ∧ e ≠ .separator ∧ c.theme? = some e.label ∧
        (c.isProjectTheme = true ↔ ∃ name, e = .project name) := by
  intro c
  have hi : c.themeIndex = some 0 := by decide +kernel
  have hreachable : Reachable c := (Reachable.initial true []).run _
  exact ⟨by decide +kernel, hi, (theme_of_reachable hreachable).2 0 hi⟩

/-! ## The selected locale -/

end Controller

/-- Does a request choose a locale? -/
def Request.choosesLocale : Request → Bool
  | .selectLocale _ => true
  | .typeLocale _ => true
  | _ => false

namespace Controller

/-- The index of the selected locale is the place of the effective language and region. -/
def PlacesLocale (c : Controller) : Prop :=
  c.locales.IsPlace c.resolver.locale.1 c.resolver.locale.2 c.localeIndex

theorem placesLocale_of_position? {c : Controller}
    (h : c.localeIndex = c.locales.position? c.resolver.locale.1 c.resolver.locale.2) :
    c.PlacesLocale := by
  unfold PlacesLocale
  rw [h]
  exact LocaleCatalog.isPlace_position? _ _ _

/-- Requests other than the choice of a locale apply no locale to the resolver. -/
theorem locale_after {c : Controller} {r : Request} (hr : r.choosesLocale = false) :
    (c.after r).resolver.locale = c.resolver.locale := by
  refine Resolver.locale_run (fun op hop => ?_) c.resolver
  cases operates_of_mem hop with
  | selectLocale i language region => cases hr
  | typeLocale text language region => cases hr
  | _ => rfl

/-- The locales to choose from are those of a provider, and only its resources replace them. -/
theorem locales_after {c : Controller} {r : Request} (hp : r.provider? = none) :
    (c.after r).locales = c.locales := by
  show (c.beside r).locales = c.locales
  cases r with
  | start p | updateResources p => cases hp
  | selectLocale i | typeLocale text | selectTheme i | setClipping on | setToggle i on =>
    simp only [beside]
    split <;> rfl
  | _ => rfl

/-- What else a request does leaves the place right as long as the locales, the index and the
effective locale stay. -/
theorem PlacesLocale.of_beside {c : Controller} (h : c.PlacesLocale) {r : Request}
    (hr : r.choosesLocale = false) (hl : (c.beside r).locales = c.locales)
    (hi : (c.beside r).localeIndex = c.localeIndex) : (c.after r).PlacesLocale := by
  show (c.beside r).locales.IsPlace _ _ (c.beside r).localeIndex
  rw [hl, hi, locale_after hr]
  exact h

/-- A new list of locales is searched for the effective locale. -/
theorem placesLocale_of_updateLocales {c : Controller} {r : Request} {p : Provider}
    (hr : r.choosesLocale = false) (hb : c.beside r = (c.withThemes p).updateLocales p) :
    (c.after r).PlacesLocale := by
  refine placesLocale_of_position? ?_
  show (c.beside r).localeIndex = (c.beside r).locales.position? _ _
  rw [hb, locale_after hr]
  rfl

theorem places_locale (c : Controller) (r : Request) (h : c.PlacesLocale) :
    (c.after r).PlacesLocale := by
  cases r with
  | start p => exact placesLocale_of_updateLocales rfl rfl
  | updateResources p => exact placesLocale_of_updateLocales rfl rfl
  | selectLocale i =>
    simp only [after, beside, resolverOps]
    cases he : c.locales.get? i with
    | none => exact h
    | some e =>
      cases c.isRebuilding with
      | true => exact h
      | false =>
        have hlocale := c.resolver.locale_applyLocale e.language e.region
        refine ⟨e, he, ?_, ?_⟩
        · exact congrArg Prod.fst hlocale
        · exact congrArg Prod.snd hlocale
  | typeLocale text =>
    simp only [after, beside, resolverOps]
    cases Locale.parse text with
    | error e => exact h
    | ok l =>
      refine placesLocale_of_position? ?_
      show c.locales.position? (some l.language) l.region = c.locales.position? _ _
      exact congrArg (fun p => c.locales.position? p.1 p.2)
        (c.resolver.locale_applyLocale l.language l.region).symm
  | selectTheme i | setClipping on | setToggle i on =>
    refine h.of_beside rfl (locales_after rfl) ?_
    simp only [beside]
    split <;> rfl
  | _ => exact h.of_beside rfl rfl rfl

theorem invariant_placesLocale : Invariant PlacesLocale :=
  invariant_of_after (by rintro a _ ⟨d, q, rfl⟩ h; exact h)
    (fun _ _ e _ h => nomatch h.1) places_locale

/-- **The selected locale is the effective one.** In every reachable state the index of the locale
is that of an entry with exactly the language and the region of the effective configuration, and
without an index there is no such entry. -/
theorem locale_of_reachable {c : Controller} (h : Reachable c) :
    (∀ i, c.localeIndex = some i →
      ∃ e, c.locales.entries[i]? = some e ∧ c.resolver.current.language = some e.language ∧
        c.resolver.current.region = e.region) ∧
      (c.localeIndex = none → ∀ e ∈ c.locales.entries,
        ¬(c.resolver.current.language = some e.language ∧ c.resolver.current.region = e.region)) ∧
      (c.resolver.current.language = none → c.localeIndex = none) := by
  have hplaces : c.PlacesLocale := invariant_placesLocale.of_reachable h
  refine ⟨fun i hi => ?_, fun hi => ?_, fun hl => ?_⟩
  · unfold PlacesLocale at hplaces
    rw [hi] at hplaces
    exact hplaces
  · unfold PlacesLocale at hplaces
    rw [hi] at hplaces
    exact hplaces
  · have hplace : c.locales.IsPlace none c.resolver.current.region c.localeIndex := by
      rw [← hl]
      exact hplaces
    exact hplace.eq_none

/-- A provider of a project with the given languages and their regions. -/
def localeProvider (languages : List (String × List String)) : Provider where
  framework := none
  project := some (.ofList (languages.map fun l => (l.1, .ofList l.2)))
  frameworkValues := none
  projectValues := none
  devices := []

/-- Locales are added in a rebuild that breaks off: the index moves with the selected one. -/
theorem locale_of_reachable_of_more_locales :
    let c := (initial true []).run
      [.updateResources (localeProvider [("en", ["US"])]), .selectLocale 1,
        .rebuild [.updateResources (localeProvider [("en", ["US", "GB"]), ("de", [])])] true]
    c.localeIndex = some 3 ∧
      ∃ e, c.locales.entries[3]? = some e ∧ c.resolver.current.language = some e.language ∧
        c.resolver.current.region = e.region := by
  intro c
  have hi : c.localeIndex = some 3 := by decide +kernel
  have hreachable : Reachable c := (Reachable.initial true []).run _
  exact ⟨hi, (locale_of_reachable hreachable).1 3 hi⟩

end Controller

end ConfigBar
