import ConfigBar.Proofs.Checks
import ConfigBar.Proofs.Controller.Raised
import ConfigBar.Proofs.Controller.Selections
import ConfigBar.Proofs.Qualifier.Listing
import ConfigBar.Proofs.Report.Setting
/-!
# Choices and settings

A controller outside of rebuilds shows a setting (`Controller.Shows`), and its report is that of the
setting (`Shows.isShown`). A choice leads it to the next setting, in which only what was chosen has
changed, or reports its fault.

* `Resolver.Selects` — what a setting asks of the resolver; every variant that is applied keeps it
* `attempt_eq`, `attempt_telling` — the state after a request, outside of rebuilds
* `decides_choose_device`, `decides_choose_variant`, `decides_choose_locale`,
  `decides_choose_theme` — the choices that may fail
* `shows_choose_version`, `shows_choose_clipping` — those that never fail
-/

namespace ConfigBar

/-! ## Variants in the resolver -/

namespace Resolver

/-- The name of a variant of a device is selected. -/
structure Selects (r : Resolver) (devices : List Device) (d : Device) (name : String)
    (current : QualifierSet) : Prop where
  devices_eq : r.devices = devices
  device?_eq : r.device? = some d
  variantNames_eq : r.variantNames = d.variantNames
  variant?_eq : r.variant? = some name
  current_eq : r.current = current

variable {r : Resolver} {devices : List Device} {d : Device} {name : String} {q : QualifierSet}
  {v : Variant} {name' : String}

/-- The first variant of a device is selected with it. -/
theorem selects_withDevice {i : Nat} (hi : r.devices[i]? = some d)
    (hv : d.variants.head? = some v) :
    (r.withDevice i d).Selects r.devices d v.name r.current where
  devices_eq := rfl
  device?_eq := hi
  variantNames_eq := rfl
  variant?_eq := by
    obtain ⟨vs, hvs⟩ := List.head?_eq_some_iff.mp hv
    simp [withDevice, variant?, Device.variantNames, hvs]
  current_eq := rfl

theorem Selects.applySelected_eq (h : r.Selects devices d name q) :
    r.applySelected = r.applyVariant name := by
  rw [applySelected, h.variant?_eq]

/-- The application of a variant of the selected device. -/
theorem Selects.applyVariant (h : r.Selects devices d name q)
    (hv : d.variants.find? (fun v => v.name == name') = some v) :
    ∃ next, r.applyVariant name' = .ok (next, true) ∧
      next.Selects devices d v.name (merge q v.qualifiers) := by
  have hvariant? : (d.variantNames.findIdx? (· == name')).bind (fun i => d.variantNames[i]?) =
      some v.name := by
    obtain ⟨i, hi, hget⟩ := Device.exists_index_of_find? hv
    rw [hi, Option.bind_some, hget]
  refine ⟨_, applyVariant_eq_ok_true_iff.mpr ⟨d, v.qualifiers, h.device?_eq, ?_, rfl⟩, ?_⟩
  · rw [Device.variant?, hv, Option.map_some]
  · rw [← h.variantNames_eq] at hvariant?
    exact ⟨h.devices_eq, h.device?_eq, h.variantNames_eq, hvariant?, by rw [h.current_eq]⟩

/-- A device is selected and its first variant applied. -/
theorem selects_firstVariant {i : Nat} (hi : r.devices[i]? = some d)
    (hv : d.variants.head? = some v) :
    ∃ next, (r.withDevice i d).applySelected = .ok (next, true) ∧
      next.Selects r.devices d v.name (merge r.current v.qualifiers) := by
  have hselects := selects_withDevice hi hv
  have hfirst : d.variants.find? (fun w => w.name == v.name) = some v := by
    obtain ⟨vs, hvs⟩ := List.head?_eq_some_iff.mp hv
    simp [hvs]
  rw [hselects.applySelected_eq]
  exact hselects.applyVariant hfirst

theorem Selects.applyVariant_of_find?_eq_none (h : r.Selects devices d name q)
    (hv : d.variants.find? (fun v => v.name == name') = none) :
    r.applyVariant name' = .error (.noSuchVariant d.name name') := by
  simp only [Resolver.applyVariant, h.device?_eq, Device.variant?, hv, Option.map_none]

end Resolver

namespace Controller

variable {c next : Controller} {s : ProjectSnapshot} {x : Setting}

/-! ## Choices -/

theorem attempt_eq {α : Type} {r : Request} {o : Outcome α} {reply : α → Reply}
    (h : c.perform r = o.answer reply) : c.attempt r = o.result.map fun _ => o.controller := by
  unfold attempt
  rw [h, Outcome.answer]
  cases o.result <;> rfl

/-- Outside of rebuilds a listener is told at once, and the state is as it was. -/
theorem controller_telling (h : c.depth = 0) (n : Notice) : (c.telling n).controller = c := by
  have hr : c.isRebuilding = false := isRebuilding_eq_false_iff.mpr h
  unfold telling tell
  simp [hr]

theorem attempt_telling {r : Request} {n : Notice} {f : Unit → Reply}
    (h : c.perform r = (next.telling n).answer f) (hd : next.depth = 0) :
    c.attempt r = .ok next := by
  rw [attempt_eq h]
  show Except.ok (next.telling n).controller = _
  rw [controller_telling hd]

theorem choose_eq_ok {choice : Choice} {r : Request} (hr : choice.request c = .ok r)
    (ha : c.attempt r = .ok next) : c.choose choice = .ok next := by
  unfold choose
  rw [hr]
  show (c.attempt r).mapError _ = _
  rw [ha]
  rfl

theorem choose_eq_error {choice : Choice} {r : Request} {cause : ControllerError}
    (hr : choice.request c = .ok r) (ha : c.attempt r = .error cause) :
    c.choose choice = .error (.refused choice cause) := by
  unfold choose
  rw [hr]
  show (c.attempt r).mapError _ = _
  rw [ha]
  rfl

theorem chooseAll_append (xs ys : List Choice) :
    c.chooseAll (xs ++ ys) = (c.chooseAll xs).bind fun next => next.chooseAll ys := by
  induction xs generalizing c with
  | nil => rfl
  | cons choice xs ih =>
    rw [List.cons_append, chooseAll, chooseAll]
    cases c.choose choice with
    | error fault => rfl
    | ok next => exact ih

theorem chooseAll_singleton (choice : Choice) : c.chooseAll [choice] = c.choose choice := by
  rw [chooseAll]
  cases c.choose choice <;> rfl

/-! ## Controllers and settings -/

/-- Outside of rebuilds a controller shows a setting of a project. -/
structure Shows (c : Controller) (s : ProjectSnapshot) (x : Setting) : Prop where
  depth_eq : c.depth = 0
  clippingSupported_eq : c.clippingSupported = true
  locales_eq : c.locales = s.locales
  themes_eq : c.themes = s.themes
  selects : c.resolver.Selects s.devices x.device x.variant.name x.config
  locale_eq : c.localeIndex.bind c.locales.get? = x.locale
  isSelection : c.themes.IsSelection c.themeIndex
  theme_eq : c.themeIndex.bind c.themes.get? = x.theme
  clipping_eq : c.clipping = x.clipping

theorem isProjectTheme_of_isSelection (h : c.themes.IsSelection c.themeIndex) :
    (c.theme?.isSome && c.isProjectTheme) = true ↔
      ∃ name, c.themeIndex.bind c.themes.get? = some (.project name) := by
  cases hi : c.themeIndex with
  | none => simp [theme?, hi]
  | some i =>
    rw [hi] at h
    obtain ⟨e, he, hs⟩ := h
    rw [theme?_of_themeIndex hi he, isProjectTheme_of_themeIndex hi, Option.isSome_some,
      Bool.true_and, ThemeList.isProjectTheme_iff he hs, Option.bind_some, he]
    simp

/-- The density is that of the variant. -/
theorem Shows.hasDensity (h : c.Shows s x) :
    HasDensity x.variant.qualifiers.density c.resolver.density := by
  rw [Resolver.density, h.selects.current_eq]
  exact hasDensity_screenDensity x.config

/-- The dots per inch in a direction are those of the device. -/
theorem Shows.hasDpi (h : c.Shows s x) (dpi : Device → Option Number.Single) :
    HasDpi (dpi x.device) c.resolver.density
      ((c.resolver.device?.bind fun d => (dpi d).filter Number.Single.isFinite).getD
        c.resolver.nominalDpi) := by
  rw [h.selects.device?_eq, Option.bind_some]
  exact hasDpi_getD h.hasDensity (dpi x.device)

/-- The report of a controller is that of the setting it shows. -/
theorem Shows.isShown (h : c.Shows s x) : x.IsShown (Report.ofController c) where
  device := by
    show c.resolver.device?.map Device.name = _
    rw [h.selects.device?_eq, Option.map_some]
  variant := h.selects.variant?_eq
  mem_qualifiers q := by
    show q ∈ c.resolver.current.toList ↔ _
    rw [h.selects.current_eq, QualifierSet.mem_toList]
  ascending := QualifierSet.toList_ascending _
  configuration := by
    show c.resolver.current.folder? = if c.resolver.current.toList = [] then none
      else some ("-".intercalate (c.resolver.current.toList.map Qualifier.segment))
    simp only [QualifierSet.folder?, QualifierSet.isEmpty, List.isEmpty_iff]
  density := h.hasDensity
  xdpi := h.hasDpi Device.xdpi
  ydpi := h.hasDpi Device.ydpi
  bounds := by
    show HasBounds _ _ c.resolver.current.bounds
    rw [h.selects.current_eq]
    exact hasBounds_bounds x.config
  theme := by
    show (c.themeIndex.bind c.themes.get?).map ThemeEntry.label = _
    rw [h.theme_eq]
  isProjectTheme := by
    rw [← h.theme_eq]
    exact isProjectTheme_of_isSelection h.isSelection
  locale := by
    show (c.localeIndex.bind c.locales.get?).map LocaleEntry.label = _
    rw [h.locale_eq]
  clipping := h.clipping_eq

/-! ## One choice -/

/-- A merge of a variant into the configuration of a setting. -/
theorem merge_config (x : Setting) (v : Variant) :
    Resolver.merge x.config v.qualifiers = ({ x with variant := v } : Setting).config :=
  Resolver.merge_eq _ _

/-- A change of the resolver only, after which a variant of a device is selected. -/
theorem Shows.withResolver (h : c.Shows s x) {r : Resolver} {d : Device} {v : Variant}
    (hr : r.Selects s.devices d v.name (Resolver.merge x.config v.qualifiers)) :
    ({ c with resolver := r } : Controller).Shows s { x with device := d, variant := v } where
  depth_eq := h.depth_eq
  clippingSupported_eq := h.clippingSupported_eq
  locales_eq := h.locales_eq
  themes_eq := h.themes_eq
  selects := by
    rw [merge_config] at hr
    exact hr
  locale_eq := h.locale_eq
  isSelection := h.isSelection
  theme_eq := h.theme_eq
  clipping_eq := h.clipping_eq

theorem applyDevice_eq {r : Resolver} (h : c.resolver.applySelected = .ok (r, true)) :
    c.applyDevice = telling { c with resolver := r } .configuration := by
  unfold applyDevice
  rw [h]
  rfl

theorem attempt_selectDevice (hd : c.depth = 0) {i : Nat} {d : Device} {r : Resolver}
    (hget : c.resolver.devices[i]? = some d)
    (happly : (c.resolver.withDevice i d).applySelected = .ok (r, true)) :
    c.attempt (.selectDevice i) = .ok { c with resolver := r } := by
  have hselect : c.selectDevice i =
      { telling { c with resolver := r } .configuration with
        result := .ok (.selected i d.name) } := by
    simp only [selectDevice, Resolver.selectDevice, hget]
    rw [applyDevice_eq (c := { c with resolver := c.resolver.withDevice i d }) happly]
    rfl
  rw [attempt_eq (o := c.selectDevice i) rfl, hselect]
  show Except.ok (telling { c with resolver := r } .configuration).controller = _
  rw [controller_telling (c := { c with resolver := r }) hd]

theorem decides_choose_device (h : c.Shows s x) (name : String)
    (hvariants : ∀ d ∈ s.devices, d.variants ≠ []) :
    Decides (if name ∈ s.devices.map Device.name then [] else [.unknownDevice name])
      (fun next => ∃ d v, s.device? name = some d ∧ d.variants.head? = some v ∧
        next.Shows s { x with device := d, variant := v })
      (c.choose (.device name)) := by
  have hnames : c.resolver.deviceNames = s.devices.map Device.name := by
    rw [Resolver.deviceNames, h.selects.devices_eq]
  obtain ⟨hmem, hi, -⟩ | ⟨i, d, hmem, hi, hget, hfind⟩ :=
    findIdx?_map_cases Device.name name s.devices
  · have hchoose : c.choose (.device name) = .error (.unknownDevice name) := by
      simp only [choose, Choice.request, hnames, hi]
    rw [hchoose, if_neg hmem]
    exact rfl
  · have hd : d ∈ s.devices := List.mem_of_find?_eq_some hfind
    obtain ⟨v, vs, hvs⟩ := List.exists_cons_of_ne_nil (hvariants d hd)
    have hv : d.variants.head? = some v := by rw [hvs, List.head?_cons]
    rw [← h.selects.devices_eq] at hget
    obtain ⟨r, happly, hr⟩ := Resolver.selects_firstVariant hget hv
    rw [h.selects.devices_eq, h.selects.current_eq] at hr
    have hshows := h.withResolver hr
    have hattempt := attempt_selectDevice h.depth_eq hget happly
    rw [choose_eq_ok (by simp only [Choice.request, hnames, hi]) hattempt, if_pos hmem]
    exact ⟨rfl, d, v, hfind, hv, hshows⟩

theorem attempt_selectVariant (hd : c.depth = 0) {name : String} {r : Resolver}
    (happly : c.resolver.applyVariant name = .ok (r, true)) :
    c.attempt (.selectVariant name) = .ok { c with resolver := r } := by
  refine attempt_telling (n := .configuration) (f := fun _ => .done) ?_ hd
  show (c.afterVariant (c.resolver.applyVariant name)).answer _ = _
  rw [happly]
  rfl

theorem decides_choose_variant (h : c.Shows s x) (name : String) :
    Decides (if name ∈ x.device.variantNames then []
        else [.refused (.variant name) (.selection (.noSuchVariant x.device.name name))])
      (fun next => ∃ v, x.device.variants.find? (fun v => v.name == name) = some v ∧
        next.Shows s { x with variant := v })
      (c.choose (.variant name)) := by
  obtain ⟨hmem, -, hfind⟩ | ⟨-, v, hmem, -, -, hfind⟩ :=
    findIdx?_map_cases Variant.name name x.device.variants
  · have happly := h.selects.applyVariant_of_find?_eq_none hfind
    have hattempt : c.attempt (.selectVariant name) =
        .error (.selection (.noSuchVariant x.device.name name)) := by
      rw [attempt_eq (o := c.afterVariant (c.resolver.applyVariant name)) rfl, happly]
      rfl
    rw [choose_eq_error rfl hattempt, Device.variantNames, if_neg hmem]
    exact rfl
  · obtain ⟨r, happly, hr⟩ := h.selects.applyVariant hfind
    have hattempt := attempt_selectVariant h.depth_eq happly
    rw [choose_eq_ok rfl hattempt, Device.variantNames, if_pos hmem]
    exact ⟨rfl, v, hfind, h.withResolver hr⟩

/-- A change of the language and the region, with the index of the entry that is shown. -/
theorem Shows.withLocale (h : c.Shows s x) (l : Locale) {i : Option Nat} {e : Option LocaleEntry}
    (he : i.bind s.locales.get? = e) :
    ({ c with
      resolver := c.resolver.applyLocale (some (.language l.language)) (l.region.map .region)
      localeIndex := i } : Controller).Shows s
      { x with language := some l.language, region := l.region, locale := e } where
  depth_eq := h.depth_eq
  clippingSupported_eq := h.clippingSupported_eq
  locales_eq := h.locales_eq
  themes_eq := h.themes_eq
  selects := by
    refine ⟨h.selects.devices_eq, h.selects.device?_eq, h.selects.variantNames_eq,
      h.selects.variant?_eq, ?_⟩
    show (c.resolver.current.put .language (some (.language l.language))).put .region _ = _
    rw [h.selects.current_eq]
    cases l.region <;> rfl
  locale_eq := by
    rw [← he, ← h.locales_eq]
  isSelection := h.isSelection
  theme_eq := h.theme_eq
  clipping_eq := h.clipping_eq

theorem attempt_typeLocale (hd : c.depth = 0) {text : String} {l : Locale}
    (hparse : Locale.parse text = .ok l) :
    c.attempt (.typeLocale text) = .ok { c with
      resolver := c.resolver.applyLocale (some (.language l.language)) (l.region.map .region)
      localeIndex := c.locales.position? (some l.language) l.region } := by
  refine attempt_telling (n := .configuration) (f := fun _ => .done) ?_ hd
  show (c.typeLocale text).answer _ = _
  simp only [typeLocale, hparse]

theorem attempt_selectLocale (hd : c.depth = 0) {i : Nat} {e : LocaleEntry}
    (hget : c.locales.get? i = some e) :
    c.attempt (.selectLocale i) = .ok { c with
      resolver := c.resolver.applyLocale (some e.languageQualifier) e.regionQualifier?
      localeIndex := some i } := by
  have hr : c.isRebuilding = false := isRebuilding_eq_false_iff.mpr hd
  refine attempt_telling (n := .configuration) (f := fun _ => .done) ?_ hd
  show (c.selectLocale i).answer _ = _
  simp only [selectLocale, hget, hr]
  rfl

theorem decides_choose_locale (h : c.Shows s x) (text : String) :
    Decides (if text ∈ s.locales.labels then []
        else match Locale.parse text with
          | .ok _ => []
          | .error cause => [.refused (.locale text) (.locale cause)])
      (·.Shows s { x with
        language := (Selection.localeOf? s text).map Locale.language
        region := (Selection.localeOf? s text).bind Locale.region
        locale := Selection.entryOf? s text })
      (c.choose (.locale text)) := by
  have hlabels : c.locales.labels = s.locales.entries.map LocaleEntry.label := by
    rw [LocaleCatalog.labels, h.locales_eq]
  rw [LocaleCatalog.labels]
  obtain ⟨hmem, hi, hfind⟩ | ⟨i, e, hmem, hi, hget, hfind⟩ :=
    findIdx?_map_cases LocaleEntry.label text s.locales.entries
  · -- the text is no label, so it is typed
    have hrequest : (Choice.locale text).request c = .ok (.typeLocale text) := by
      simp only [Choice.request, hlabels, hi]
    rw [if_neg hmem]
    cases hparse : Locale.parse text with
    | error cause =>
      have hattempt : c.attempt (.typeLocale text) = .error (.locale cause) := by
        rw [attempt_eq (o := c.typeLocale text) rfl, typeLocale, hparse]
        rfl
      rw [choose_eq_error hrequest hattempt]
      exact rfl
    | ok l =>
      have hentry : (c.locales.position? (some l.language) l.region).bind s.locales.get? =
          s.locales.entries.find? fun e => e.language == l.language && e.region == l.region := by
        rw [h.locales_eq, List.find?_eq_bind_findIdx?_getElem?]
        rfl
      rw [choose_eq_ok hrequest (attempt_typeLocale h.depth_eq hparse)]
      refine ⟨rfl, ?_⟩
      simp only [Selection.localeOf?, Selection.entryOf?, hfind, hparse]
      exact h.withLocale l hentry
  · -- an entry with the label is selected, whatever its language and region are
    have hrequest : (Choice.locale text).request c = .ok (.selectLocale i) := by
      simp only [Choice.request, hlabels, hi]
    have hentry : c.locales.get? i = some e := by rw [h.locales_eq]; exact hget
    rw [choose_eq_ok hrequest (attempt_selectLocale h.depth_eq hentry), if_pos hmem]
    refine ⟨rfl, ?_⟩
    simp only [Selection.localeOf?, Selection.entryOf?, hfind]
    exact h.withLocale ⟨e.language, e.region⟩ hget

theorem shows_choose_version (h : c.Shows s x) (level : UInt32) :
    ∃ next, c.choose (.version level) = .ok next ∧
      next.Shows s { x with version := some level } := by
  have hattempt : c.attempt (.setVersion (some level)) =
      .ok { c with resolver := c.resolver.applyVersion (some level) } :=
    attempt_telling (n := .configuration) (f := fun _ => .done) rfl h.depth_eq
  refine ⟨_, choose_eq_ok rfl hattempt, h.depth_eq, h.clippingSupported_eq, h.locales_eq,
    h.themes_eq, ?_, h.locale_eq, h.isSelection, h.theme_eq, h.clipping_eq⟩
  refine ⟨h.selects.devices_eq, h.selects.device?_eq, h.selects.variantNames_eq,
    h.selects.variant?_eq, ?_⟩
  show c.resolver.current.put .version (some (.version level)) = _
  rw [h.selects.current_eq]
  rfl

theorem attempt_selectTheme (hd : c.depth = 0) {i : Nat} {e : ThemeEntry}
    (hget : c.themes.get? i = some e) (hs : e.isSeparator = false) :
    c.attempt (.selectTheme i) = .ok { c with themeIndex := some i } := by
  refine attempt_telling (n := .theme) (f := fun _ => .done) ?_ hd
  show (c.selectTheme i).answer _ = _
  simp only [selectTheme, hget, hs]
  rfl

theorem decides_choose_theme (h : c.Shows s x) (name : String) :
    Decides (if ∃ e ∈ s.themes.entries, e ≠ .separator ∧ e.label = name then []
        else [.unknownTheme name])
      (·.Shows s { x with
        theme := s.themes.entries.find? fun e => !e.isSeparator && e.label == name })
      (c.choose (.theme name)) := by
  obtain ⟨hi, hfind⟩ | ⟨i, e, hi, hget, hfind⟩ :=
    findIdx?_cases (fun e : ThemeEntry => !e.isSeparator && e.label == name) s.themes.entries
  · have hnone : ¬∃ e ∈ s.themes.entries, e ≠ .separator ∧ e.label = name := by
      rintro ⟨e, he, hs, hl⟩
      have hp := List.find?_eq_none.mp hfind e he
      simp [hl, mt ThemeEntry.isSeparator_iff.mp hs] at hp
    have hchoose : c.choose (.theme name) = .error (.unknownTheme name) := by
      have hposition : c.themes.position? name = none := by rw [h.themes_eq]; exact hi
      simp only [choose, Choice.request, hposition]
    rw [hchoose, if_neg hnone]
    exact rfl
  · have hp : e.isSeparator = false ∧ e.label = name := by simpa using List.find?_some hfind
    have hs : e ≠ .separator := by
      rintro rfl
      cases hp.1
    have hposition : c.themes.position? name = some i := by rw [h.themes_eq]; exact hi
    have hentry : c.themes.get? i = some e := by rw [h.themes_eq]; exact hget
    have hattempt := attempt_selectTheme h.depth_eq hentry hp.1
    rw [choose_eq_ok (by simp only [Choice.request, hposition]) hattempt,
      if_pos ⟨e, List.mem_of_find?_eq_some hfind, hs, hp.2⟩]
    refine ⟨rfl, h.depth_eq, h.clippingSupported_eq, h.locales_eq, h.themes_eq, h.selects,
      h.locale_eq, ⟨e, hentry, hs⟩, ?_, h.clipping_eq⟩
    exact hentry.trans hfind.symm

theorem shows_choose_clipping (h : c.Shows s x) (on : Bool) :
    ∃ next, c.choose (.clipping on) = .ok next ∧ next.Shows s { x with clipping := on } := by
  have hattempt : c.attempt (.setClipping on) = .ok { c with clipping := on } := by
    refine attempt_telling (n := .clipping) (f := fun _ => .done) ?_ h.depth_eq
    show (c.setClipping on).answer _ = _
    simp only [setClipping, h.clippingSupported_eq, if_true]
  exact ⟨_, choose_eq_ok rfl hattempt, h.depth_eq, h.clippingSupported_eq, h.locales_eq,
    h.themes_eq, h.selects, h.locale_eq, h.isSelection, h.theme_eq, rfl⟩

end Controller

end ConfigBar
