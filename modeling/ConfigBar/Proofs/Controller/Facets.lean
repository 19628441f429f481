import ConfigBar.Proofs.Controller.Raised
import ConfigBar.Proofs.Controller.Variants
/-!
# The facets of the state

The state of a controller falls into facets: the devices, the locale, the version, the theme,
clipping, and the other buttons. A request is about some of them (`Request.facets`).

* `view_step` — a request leaves the other facets as they are
* `view_step_congr`, `results_congr`, `raised_congr` — from two states that agree in the facets that
  a request is about, it does the same, answers the same and raises the same
* `alike_of_view` — but for rebuilds and notices, a state is determined by its facets

The resolver takes part in three facets, by the parts of `Resolver.eq_of_parts`.
-/

namespace ConfigBar

/-! ## Facets -/

/-- What a request may be about. -/
inductive Facet where
  | device
  | locale
  | version
  | theme
  | clipping
  | create
  | editing
  | toggles
  deriving DecidableEq, Repr

namespace Facet

/-- All facets. -/
def all : List Facet := [device, locale, version, theme, clipping, create, editing, toggles]

@[simp] theorem mem_all (f : Facet) : f ∈ all := by cases f <;> decide

/-- What a facet consists of. -/
abbrev View : Facet → Type
  | device => Resolver
  | locale => LocaleCatalog × Option Nat × Option String × Option String
  | version => Option UInt32
  | theme => ThemeList × Option Nat
  | clipping => Bool × Bool
  | create => Bool
  | editing => String
  | toggles => List Toggle

end Facet

/-- The facets that a request is about. A rebuild may be about all of them. -/
def Request.facets : Request → List Facet
  | .start _ => [.theme, .locale, .device]
  | .updateResources _ => [.theme, .locale]
  | .reloadDevices _ => [.device]
  | .selectDevice _ => [.device]
  | .selectVariant _ => [.device]
  | .selectVariantAt _ => [.device]
  | .selectLocale _ => [.locale]
  | .typeLocale _ => [.locale]
  | .setVersion _ => [.version]
  | .selectTheme _ => [.theme]
  | .setClipping _ => [.clipping]
  | .setClippingSupport _ => [.clipping]
  | .setCreateEnabled _ => [.create]
  | .requestCreate => [.create]
  | .setEditing _ => [.editing]
  | .setToggle _ _ => [.toggles]
  | .rebuild _ _ => Facet.all

/-- The facet of the part of a resolver that an operation writes. -/
def Resolver.Op.facet : Resolver.Op → Facet
  | .applyLocale _ _ => .locale
  | .applyVersion _ => .version
  | _ => .device

namespace Controller

/-- What a state says of a facet. -/
def view (c : Controller) : (f : Facet) → f.View
  | .device => c.resolver.withoutChoices
  | .locale => (c.locales, c.localeIndex, c.resolver.locale)
  | .version => c.resolver.current.version
  | .theme => (c.themes, c.themeIndex)
  | .clipping => (c.clipping, c.clippingSupported)
  | .create => c.createEnabled
  | .editing => c.editingLabel
  | .toggles => c.toggles

variable {a b c : Controller} {r : Request} {f : Facet}

/-- Rebuilds and notices belong to no facet. -/
theorem view_of_alike (h : Alike a b) (f : Facet) : b.view f = a.view f := by
  obtain ⟨d, q, rfl⟩ := h
  cases f <;> rfl

/-- But for rebuilds and notices, a state is determined by its facets. -/
theorem alike_of_view (hl : a.listening = b.listening) (h : ∀ f, a.view f = b.view f) :
    Alike a b := by
  have hresolver : a.resolver = b.resolver :=
    Resolver.eq_of_parts (h .device) (Prod.mk.inj (Prod.mk.inj (h .locale)).2).2 (h .version)
  obtain ⟨hlocales, hlocale⟩ := Prod.mk.inj (h .locale)
  obtain ⟨hlocaleIndex, -⟩ := Prod.mk.inj hlocale
  obtain ⟨hthemes, hthemeIndex⟩ := Prod.mk.inj (h .theme)
  obtain ⟨hclipping, hsupported⟩ := Prod.mk.inj (h .clipping)
  have hcreate : a.createEnabled = b.createEnabled := h .create
  have hediting : a.editingLabel = b.editingLabel := h .editing
  have htoggles : a.toggles = b.toggles := h .toggles
  refine ⟨b.depth, b.pending, ?_⟩
  cases a
  cases b
  simp_all

/-! ## Other facets -/

/-- A request performs operations on the parts of the resolver that it is about. -/
theorem facet_of_mem_resolverOps {op : Resolver.Op} (h : op ∈ c.resolverOps r) :
    op.facet ∈ r.facets := by
  cases operates_of_mem h <;> simp [Resolver.Op.facet, Request.facets]

theorem resolver_beside (c : Controller) (r : Request) : (c.beside r).resolver = c.resolver := by
  cases r with
  | selectLocale i => simp only [beside]; split <;> rfl
  | typeLocale text => simp only [beside]; split <;> rfl
  | selectTheme i => simp only [beside]; split <;> rfl
  | setClipping on => simp only [beside]; split <;> rfl
  | setToggle i on => simp only [beside]; split <;> rfl
  | _ => rfl

/-- Beside the resolver a request does nothing to other facets. -/
theorem view_beside (hf : f ∉ r.facets) : (c.beside r).view f = c.view f := by
  -- each case writes fields of one facet, or of two where resources are taken over
  cases r with
  | start p | updateResources p =>
    cases f with
    | theme | locale => simp [Request.facets] at hf
    | _ => rfl
  | selectLocale i | typeLocale text =>
    cases f with
    | locale => simp [Request.facets] at hf
    | _ => simp only [beside]; split <;> rfl
  | selectTheme i =>
    cases f with
    | theme => simp [Request.facets] at hf
    | _ => simp only [beside]; split <;> rfl
  | setClipping on =>
    cases f with
    | clipping => simp [Request.facets] at hf
    | _ => simp only [beside]; split <;> rfl
  | setClippingSupport supported =>
    cases f with
    | clipping => simp [Request.facets] at hf
    | _ => rfl
  | setCreateEnabled enabled =>
    cases f with
    | create => simp [Request.facets] at hf
    | _ => rfl
  | setEditing config =>
    cases f with
    | editing => simp [Request.facets] at hf
    | _ => rfl
  | setToggle i on =>
    cases f with
    | toggles => simp [Request.facets] at hf
    | _ => simp only [beside]; split <;> rfl
  | _ => rfl

/-- Operations on other parts of the resolver do nothing to a facet. -/
theorem view_withRun {ops : List Resolver.Op} (h : ∀ op ∈ ops, op.facet ≠ f) (c : Controller) :
    ({ c with resolver := c.resolver.run ops } : Controller).view f = c.view f := by
  cases f with
  | device =>
    refine Resolver.withoutChoices_run (fun op hop => ?_) c.resolver
    have hfacet := h op hop
    cases op <;> simp_all [Resolver.Op.facet, Resolver.Op.locale?, Resolver.Op.version?]
  | locale =>
    have hlocale : (c.resolver.run ops).locale = c.resolver.locale := by
      refine Resolver.locale_run (fun op hop => ?_) c.resolver
      have hfacet := h op hop
      cases op <;> simp_all [Resolver.Op.facet, Resolver.Op.locale?]
    exact congrArg (fun l => (c.locales, c.localeIndex, l)) hlocale
  | version =>
    refine Resolver.version_run (fun op hop => ?_) c.resolver
    have hfacet := h op hop
    cases op <;> simp_all [Resolver.Op.facet, Resolver.Op.version?]
  | _ => rfl

theorem after_eq (c : Controller) (r : Request) :
    c.after r = { c.beside r with resolver := (c.beside r).resolver.run (c.resolverOps r) } := by
  rw [resolver_beside]
  rfl

/-- **A single request leaves the facets alone that it is not about.** -/
theorem view_step (hr : r.isRebuild = false) (hf : f ∉ r.facets) : (c.step r).view f = c.view f := by
  have hops : ∀ op ∈ c.resolverOps r, op.facet ≠ f := by
    rintro op hop rfl
    exact hf (facet_of_mem_resolverOps hop)
  rw [view_of_alike (alike_after c hr), after_eq, view_withRun hops, view_beside hf]

/-! ## The facets of a request -/

/-- Two states agree in all that a request asks about. -/
structure AgreeFor (r : Request) (a b : Controller) : Prop where
  view_eq : ∀ f ∈ r.facets, a.view f = b.view f
  /-- The selection of a locale asks whether a rebuild is open. -/
  isRebuilding_eq : a.isRebuilding = b.isRebuilding

/-- The facet of a request that is about one only. -/
theorem AgreeFor.view_of_facets (h : AgreeFor r a b) (hf : r.facets = [f]) :
    a.view f = b.view f := by
  refine h.view_eq f ?_
  rw [hf]
  exact List.mem_singleton_self f

section Locale

variable (h : a.view .locale = b.view .locale)
include h

theorem locales_eq_of_view : a.locales = b.locales := (Prod.mk.inj h).1

theorem locale_eq_of_view : a.resolver.locale = b.resolver.locale :=
  (Prod.mk.inj (Prod.mk.inj h).2).2

theorem view_updateLocales_congr (p : Provider) :
    (a.updateLocales p).view .locale = (b.updateLocales p).view .locale := by
  have hlocale := locale_eq_of_view h
  obtain ⟨hlanguage, hregion⟩ := Prod.mk.inj hlocale
  simp only [view, updateLocales, hlocale, hlanguage, hregion]

end Locale

section Theme

variable (h : a.view .theme = b.view .theme)
include h

theorem themes_eq_of_view : a.themes = b.themes := (Prod.mk.inj h).1

theorem themeIndex_eq_of_view : a.themeIndex = b.themeIndex := (Prod.mk.inj h).2

theorem theme?_eq_of_view : a.theme? = b.theme? := by
  rw [theme?, theme?, themes_eq_of_view h, themeIndex_eq_of_view h]

theorem view_withThemes_congr (p : Provider) :
    (a.withThemes p).view .theme = (b.withThemes p).view .theme := by
  simp only [view, withThemes, themeIndex_eq_of_view h]

end Theme

theorem clippingSupported_eq_of_view (h : a.view .clipping = b.view .clipping) :
    a.clippingSupported = b.clippingSupported := (Prod.mk.inj h).2

theorem resolverOps_congr (h : AgreeFor r a b) : a.resolverOps r = b.resolverOps r := by
  cases r with
  | selectDevice i =>
    have hview := h.view_of_facets rfl
    have hdevices : a.resolver.devices = b.resolver.devices := Resolver.devices_eq hview
    rw [resolverOps, resolverOps, hdevices]
  | selectLocale i =>
    have hlocales := locales_eq_of_view (h.view_of_facets rfl)
    rw [resolverOps, resolverOps, hlocales, h.isRebuilding_eq]
  | _ => rfl

/-- From equal facets a request makes equal facets beside the resolver. -/
theorem view_beside_congr (h : AgreeFor r a b) (hf : f ∈ r.facets) :
    (a.beside r).view f = (b.beside r).view f := by
  have hview := h.view_eq f hf
  cases r with
  | start p | updateResources p =>
    cases f with
    | theme => exact view_withThemes_congr hview p
    | locale =>
      exact view_updateLocales_congr (a := a.withThemes p) (b := b.withThemes p) hview p
    | _ => exact hview
  | selectLocale i =>
    cases List.mem_singleton.mp hf
    have hlocales := locales_eq_of_view hview
    have hlocale := locale_eq_of_view hview
    simp only [beside, hlocales, h.isRebuilding_eq]
    split
    · simp only [view, hlocale]
    · exact hview
  | typeLocale text =>
    cases List.mem_singleton.mp hf
    have hlocales := locales_eq_of_view hview
    have hlocale := locale_eq_of_view hview
    simp only [beside]
    split
    · simp only [view, hlocales, hlocale]
    · exact hview
  | selectTheme i =>
    cases List.mem_singleton.mp hf
    have hthemes := themes_eq_of_view hview
    simp only [beside, hthemes]
    split
    · simp only [view]
    · exact hview
  | setClipping on =>
    cases List.mem_singleton.mp hf
    have hsupported := clippingSupported_eq_of_view hview
    simp only [beside, hsupported]
    split
    · simp only [view]
    · exact hview
  | setClippingSupport supported =>
    cases List.mem_singleton.mp hf
    have hclipping : a.clipping = b.clipping := (Prod.mk.inj hview).1
    simp only [beside, view, hclipping]
  | setCreateEnabled enabled =>
    cases List.mem_singleton.mp hf
    rfl
  | setEditing config =>
    cases List.mem_singleton.mp hf
    rfl
  | setToggle i on =>
    cases List.mem_singleton.mp hf
    have htoggles : a.toggles = b.toggles := hview
    simp only [beside, htoggles]
    split
    · simp only [view]
    · exact hview
  | _ => exact hview

theorem view_withRun_congr (h : a.view f = b.view f) (ops : List Resolver.Op) :
    ({ a with resolver := a.resolver.run ops } : Controller).view f =
      ({ b with resolver := b.resolver.run ops } : Controller).view f := by
  cases f with
  | device => exact Resolver.withoutChoices_run_congr h ops
  | locale =>
    obtain ⟨hlocales, hlocale⟩ := Prod.mk.inj h
    obtain ⟨hindex, hlocale⟩ := Prod.mk.inj hlocale
    simp only [view, hlocales, hindex, Resolver.locale_run_congr hlocale ops]
  | version => exact Resolver.version_run_congr h ops
  | _ => exact h

/-- **A single request goes on from the facets it is about.** What two states agree in they agree in
after it, if they agree in these facets. -/
theorem view_step_congr (hr : r.isRebuild = false) (h : AgreeFor r a b) (hf : a.view f = b.view f) :
    (a.step r).view f = (b.step r).view f := by
  by_cases hm : f ∈ r.facets
  · rw [view_of_alike (alike_after a hr), view_of_alike (alike_after b hr), after_eq, after_eq,
      resolverOps_congr h]
    exact view_withRun_congr (view_beside_congr h hm) _
  · rw [view_step hr hm, view_step hr hm, hf]

/-! ## Results -/

theorem result_afterVariant_congr {x y : Except SelectionError (Resolver × Bool)}
    (h : Resolver.SameApplied x y) : (a.afterVariant x).result = (b.afterVariant y).result := by
  cases h with
  | failed e => rfl
  | applied changed hnext => cases changed <;> rfl

/-- The answer to a single request depends on the facets it is about. -/
theorem results_congr (ha : a.resolver.Coherent) (hb : b.resolver.Coherent)
    (hr : r.isRebuild = false) (h : AgreeFor r a b) : a.results r = b.results r := by
  unfold results
  cases r with
  | start p =>
    refine Outcome.results_answer_congr ?_ _
    rw [result_start, result_start]
  | updateResources p => rfl
  | reloadDevices p =>
    refine Outcome.results_answer_congr ?_ _
    rw [result_reloadDevices, result_reloadDevices]
  | selectDevice i =>
    -- its variant can be applied in both states, so the result is the selection
    have hview := h.view_of_facets rfl
    refine Outcome.results_answer_congr ?_ _
    rw [result_selectDevice ha, result_selectDevice hb, (Resolver.selectDevice_congr hview i).2]
  | selectVariant name =>
    have hview := h.view_of_facets rfl
    have happly := Resolver.sameApplied_applyVariant hview name
    exact Outcome.results_answer_congr (result_afterVariant_congr happly) _
  | selectVariantAt i =>
    have hview := h.view_of_facets rfl
    have happly := Resolver.sameApplied_applyVariantAt hview i
    exact Outcome.results_answer_congr (result_afterVariant_congr happly) _
  | selectLocale i =>
    have hlocales := locales_eq_of_view (h.view_of_facets rfl)
    refine Outcome.results_answer_congr ?_ _
    unfold selectLocale
    rw [hlocales, h.isRebuilding_eq]
    split
    · rfl
    · split <;> rfl
  | typeLocale text =>
    refine Outcome.results_answer_congr ?_ _
    unfold typeLocale
    split <;> rfl
  | selectTheme i =>
    have hthemes := themes_eq_of_view (h.view_of_facets rfl)
    refine Outcome.results_answer_congr ?_ _
    unfold selectTheme
    rw [hthemes]
    split <;> rfl
  | setClipping on =>
    have hsupported := clippingSupported_eq_of_view (h.view_of_facets rfl)
    refine Outcome.results_answer_congr ?_ _
    unfold setClipping
    rw [hsupported]
    split <;> rfl
  | requestCreate =>
    have hcreate : a.createEnabled = b.createEnabled := h.view_of_facets rfl
    refine Outcome.results_answer_congr ?_ _
    unfold requestCreate
    rw [hcreate]
    split <;> rfl
  | setToggle i on =>
    have htoggles : a.toggles = b.toggles := h.view_of_facets rfl
    refine Outcome.results_answer_congr ?_ _
    unfold setToggle
    rw [htoggles]
    split <;> rfl
  | rebuild body broken => cases hr
  | _ => rfl

/-! ## Signals -/

theorem raisedByVariant_congr {x y : Except SelectionError (Resolver × Bool)}
    (h : Resolver.SameApplied x y) : raisedByVariant x = raisedByVariant y := by
  cases h with
  | failed e => rfl
  | applied changed hnext => cases changed <;> rfl

theorem raisedByDevice_congr {x y : Resolver} {s t : Option DeviceSelection}
    (h : x.withoutChoices = y.withoutChoices) (hs : s = t) :
    raisedByDevice (x, s) = raisedByDevice (y, t) := by
  subst hs
  unfold raisedByDevice
  match s with
  | some (.selected _ _) => exact raisedByVariant_congr (Resolver.sameApplied_applySelected h)
  | some .custom => rfl
  | none => rfl

theorem raisedByThemes_congr (h : a.view .theme = b.view .theme) (p : Provider) :
    a.raisedByThemes p = b.raisedByThemes p := by
  have hnext : (a.withThemes p).theme? = (b.withThemes p).theme? :=
    theme?_eq_of_view (view_withThemes_congr h p)
  rw [raisedByThemes, raisedByThemes, theme?_updateResources, theme?_updateResources, hnext,
    theme?_eq_of_view h]

theorem depth_eq_zero_iff_of_isRebuilding (h : a.isRebuilding = b.isRebuilding) :
    a.depth = 0 ↔ b.depth = 0 := by
  rw [← isRebuilding_eq_false_iff, ← isRebuilding_eq_false_iff, h]

/-- What a single request raises depends on the facets it is about. -/
theorem raised_congr (hr : r.isRebuild = false) (h : AgreeFor r a b) : a.raised r = b.raised r := by
  cases r with
  | start p =>
    have htheme := h.view_eq .theme (by simp [Request.facets])
    have hdevice := Resolver.reload_congr (h.view_eq .device (by simp [Request.facets])) p.devices
    rw [raised, raised, raisedByThemes_congr htheme]
    exact congrArg (_ ++ ·) (raisedByDevice_congr hdevice.1 hdevice.2)
  | updateResources p =>
    rw [raised, raised, raisedByThemes_congr (h.view_eq .theme (by simp [Request.facets]))]
  | reloadDevices p =>
    have hview := h.view_of_facets rfl
    have hdevice := Resolver.reload_congr hview p.devices
    rw [raised, raised]
    exact raisedByDevice_congr hdevice.1 hdevice.2
  | selectDevice i =>
    have hview := h.view_of_facets rfl
    have hdevice := Resolver.selectDevice_congr hview i
    rw [raised, raised]
    exact raisedByDevice_congr hdevice.1 (congrArg some hdevice.2)
  | selectVariant name =>
    have hview := h.view_of_facets rfl
    rw [raised, raised]
    exact raisedByVariant_congr (Resolver.sameApplied_applyVariant hview name)
  | selectVariantAt i =>
    have hview := h.view_of_facets rfl
    rw [raised, raised]
    exact raisedByVariant_congr (Resolver.sameApplied_applyVariantAt hview i)
  | selectLocale i =>
    have hlocales := locales_eq_of_view (h.view_of_facets rfl)
    rw [raised, raised, hlocales]
    simp only [depth_eq_zero_iff_of_isRebuilding h.isRebuilding_eq]
  | selectTheme i =>
    rw [raised, raised, themes_eq_of_view (h.view_of_facets rfl)]
  | setClipping on =>
    have hsupported := clippingSupported_eq_of_view (h.view_of_facets rfl)
    rw [raised, raised, hsupported]
  | requestCreate =>
    have hcreate : a.createEnabled = b.createEnabled := h.view_of_facets rfl
    rw [raised, raised, hcreate]
  | setToggle i on =>
    have htoggles : a.toggles = b.toggles := h.view_of_facets rfl
    rw [raised, raised, htoggles]
  | rebuild body broken => cases hr
  | _ => rw [raised, raised]

end Controller

end ConfigBar
