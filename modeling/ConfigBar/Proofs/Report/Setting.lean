import ConfigBar.Project.Snapshot
import ConfigBar.Proofs.Resolver.Screen
import ConfigBar.Report.Basic
/-!
# What selections mean

A selection names what is to be chosen from a project. `Selection.IsOffered` says when all of it is
there, `Selection.faults` what is missing, in the order in which the choices are made
(`faults_eq_nil_iff`). If nothing is missing, the selection comes to a `Setting` of the
configuration bar, and `Setting.IsShown` says what a report of it holds. None of this goes through
the states of a controller, and the screen is described case by case.
-/

namespace ConfigBar

/-- The locales of a project. -/
def ProjectSnapshot.locales (s : ProjectSnapshot) : LocaleCatalog :=
  .ofProject s.provider.project

/-- The themes of a project and its framework. -/
def ProjectSnapshot.themes (s : ProjectSnapshot) : ThemeList :=
  .ofStyles s.provider.frameworkStyles s.provider.projectStyles

/-! ## Settings -/

/-- To what a configuration bar is set. -/
structure Setting where
  device : Device
  variant : Variant
  language : Option String
  region : Option String
  version : Option UInt32
  /-- The entry that is shown for the language and the region. -/
  locale : Option LocaleEntry
  theme : Option ThemeEntry
  clipping : Bool

namespace Setting

/-- The effective configuration: the qualifiers of the variant, but the language, the region and the
version as they were chosen. -/
def config (x : Setting) : QualifierSet :=
  { x.variant.qualifiers with language := x.language, region := x.region, version := x.version }

/-- The report of a setting. -/
structure IsShown (x : Setting) (r : Report) : Prop where
  device : r.device = some x.device.name
  variant : r.variant = some x.variant.name
  mem_qualifiers : ∀ q, q ∈ r.qualifiers ↔ x.config.get? q.kind = some q
  ascending : r.qualifiers.Pairwise fun a b => a.kind.index < b.kind.index
  configuration : r.configuration =
    if r.qualifiers = [] then none else some ("-".intercalate (r.qualifiers.map Qualifier.segment))
  density : HasDensity x.variant.qualifiers.density r.density
  xdpi : HasDpi x.device.xdpi r.density r.xdpi
  ydpi : HasDpi x.device.ydpi r.density r.ydpi
  /-- Without a dimension the sizes are 480 and 320. -/
  bounds : HasBounds (x.variant.qualifiers.dimension.getD ⟨480, 320⟩)
    x.variant.qualifiers.orientation r.bounds
  theme : r.theme = x.theme.map ThemeEntry.label
  isProjectTheme : r.isProjectTheme = true ↔ ∃ name, x.theme = some (.project name)
  locale : r.locale = x.locale.map LocaleEntry.label
  clipping : r.clipping = x.clipping

end Setting

/-! ## Selections -/

namespace Selection

variable (o : Selection) (s : ProjectSnapshot)

/-- The device that is meant. Without a name it is the first one. -/
def device? : Option Device :=
  match o.device with
  | .none => s.devices.head?
  | .some name => s.device? name

/-- The variant of a device that is meant. Without a name it is the first one. -/
def variant? (d : Device) : Option Variant :=
  match o.variant with
  | .none => d.variants.head?
  | .some name => d.variants.find? fun v => v.name == name

/-- The language and the region of a text that is the label of an entry or else is typed. -/
def localeOf? (text : String) : Option Locale :=
  match s.locales.entries.find? fun e => e.label == text with
  | .some e => .some ⟨e.language, e.region⟩
  | .none => (Locale.parse text).toOption

/-- The entry that is shown for such a text: the one with the label or else the first one with the
language and the region. -/
def entryOf? (text : String) : Option LocaleEntry :=
  (s.locales.entries.find? fun e => e.label == text).or <|
    (Locale.parse text).toOption.bind fun l =>
      s.locales.entries.find? fun e => e.language == l.language && e.region == l.region

/-- The theme that is meant. Without a name it is the first one. -/
def theme? : Option ThemeEntry :=
  match o.theme with
  | .none => s.themes.entries.head?
  | .some name => s.themes.entries.find? fun e => !e.isSeparator && e.label == name

/-- What a selection comes to that means a device and a variant. -/
def setting (d : Device) (v : Variant) : Setting where
  device := d
  variant := v
  language := (o.locale.bind (localeOf? s)).map Locale.language
  region := (o.locale.bind (localeOf? s)).bind Locale.region
  version := o.version
  locale := o.locale.bind (entryOf? s)
  theme := o.theme? s
  clipping := o.clipping.getD true

/-! ## What is offered -/

/-- All that is selected is there. -/
structure IsOffered : Prop where
  device : ∀ name, o.device = some name → name ∈ s.devices.map Device.name
  variant : ∀ name d, o.variant = some name → o.device? s = some d → name ∈ d.variantNames
  locale : ∀ text, o.locale = some text →
    text ∈ s.locales.labels ∨ ∃ l, Locale.parse text = .ok l
  theme : ∀ name, o.theme = some name → ∃ e ∈ s.themes.entries, e ≠ .separator ∧ e.label = name

/-- The fault of the name of a device. -/
def deviceFaults : List SelectionFault :=
  match o.device with
  | .none => []
  | .some name => if name ∈ s.devices.map Device.name then [] else [.unknownDevice name]

/-- The fault of the name of a variant of a device. -/
def variantFaults (d : Device) : List SelectionFault :=
  match o.variant with
  | .none => []
  | .some name =>
    if name ∈ d.variantNames then []
    else [.refused (.variant name) (.selection (.noSuchVariant d.name name))]

/-- The fault of a text that neither is a label nor can be read. -/
def localeFaults : List SelectionFault :=
  match o.locale with
  | .none => []
  | .some text =>
    if text ∈ s.locales.labels then []
    else
      match Locale.parse text with
      | .ok _ => []
      | .error cause => [.refused (.locale text) (.locale cause)]

/-- The fault of the name of a theme. The separator is no theme. -/
def themeFaults : List SelectionFault :=
  match o.theme with
  | .none => []
  | .some name =>
    if ∃ e ∈ s.themes.entries, e ≠ .separator ∧ e.label = name then [] else [.unknownTheme name]

/-- The faults of a selection in the order of its choices. -/
def faults : List SelectionFault :=
  o.deviceFaults s ++ (o.device? s).elim [] o.variantFaults ++ o.localeFaults s ++ o.themeFaults s

/-- Nothing is at fault exactly if everything is there. -/
theorem faults_eq_nil_iff : o.faults s = [] ↔ o.IsOffered s := by
  have hdevice : o.deviceFaults s = [] ↔
      ∀ name, o.device = some name → name ∈ s.devices.map Device.name := by
    unfold deviceFaults
    cases o.device <;> simp
  have hvariant : (o.device? s).elim [] o.variantFaults = [] ↔
      ∀ name d, o.variant = some name → o.device? s = some d → name ∈ d.variantNames := by
    unfold variantFaults
    cases o.device? s <;> cases o.variant <;> simp
  have hlocale : o.localeFaults s = [] ↔ ∀ text, o.locale = some text →
      text ∈ s.locales.labels ∨ ∃ l, Locale.parse text = .ok l := by
    unfold localeFaults
    cases o.locale with
    | none => simp
    | some text =>
      cases h : Locale.parse text <;> simp [h]
  have htheme : o.themeFaults s = [] ↔ ∀ name, o.theme = some name →
      ∃ e ∈ s.themes.entries, e ≠ .separator ∧ e.label = name := by
    unfold themeFaults
    cases o.theme <;> simp
  rw [faults, List.append_eq_nil_iff, List.append_eq_nil_iff, List.append_eq_nil_iff, hdevice,
    hvariant, hlocale, htheme]
  constructor
  · rintro ⟨⟨⟨device, variant⟩, locale⟩, theme⟩
    exact ⟨device, variant, locale, theme⟩
  · rintro ⟨device, variant, locale, theme⟩
    exact ⟨⟨⟨device, variant⟩, locale⟩, theme⟩

end Selection

end ConfigBar
