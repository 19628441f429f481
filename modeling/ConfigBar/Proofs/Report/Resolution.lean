import ConfigBar.Proofs.Controller.Settled
import ConfigBar.Proofs.Project.Validation
import ConfigBar.Proofs.Report.Choices
/-!
# What a report means

`Report.resolve` starts a controller with a project and makes the choices of a selection one after
another. It reports the first fault of the selection, or shows the setting that the selection means.

* `shows_ofProvider` — the start
* `decides_device` to `shows_clipping` — the choices in their order, each of which may be missing
* `resolve_exact` — the whole selection, for every project that has been checked
-/

namespace ConfigBar

namespace Controller

variable {c : Controller} {s : ProjectSnapshot}

/-! ## The start -/

theorem reloadDevices_eq {p : Provider} {r next : Resolver} {i : Nat} {name : String}
    (hreload : c.resolver.reload p.devices = (r, some (.selected i name)))
    (happly : r.applySelected = .ok (next, true)) :
    c.reloadDevices p = telling { c with resolver := next } .configuration := by
  simp only [reloadDevices, hreload]
  exact applyDevice_eq (c := { c with resolver := r }) happly

/-- The start of a controller whose resolver finds a variant to apply. -/
theorem attempt_start {p : Provider} {c' : Controller} (hc : (c.updateResources p).1 = c')
    (hd : c'.depth = 0) {r next : Resolver} {i : Nat} {name : String}
    (hreload : c'.resolver.reload p.devices = (r, some (.selected i name)))
    (happly : r.applySelected = .ok (next, true)) :
    c.attempt (.start p) = .ok { c' with resolver := next } := by
  rw [attempt_eq (o := c.start p) rfl, start]
  revert hc
  cases c.updateResources p with
  | mk taken first =>
    rintro rfl
    show (taken.reloadDevices p).result.map (fun _ => (taken.reloadDevices p).controller) = _
    rw [reloadDevices_eq hreload happly]
    show Except.ok (telling { taken with resolver := next } .configuration).controller = _
    rw [controller_telling (c := { taken with resolver := next }) hd]

/-- A fresh controller that has taken over the themes and the locales of a project. -/
theorem shows_of_alike {c : Controller} (hd : c.depth = 0)
    (h : Alike (((initial false []).withThemes s.provider).updateLocales s.provider) c)
    {d : Device} {v : Variant} {r : Resolver}
    (hr : r.Selects s.devices d v.name (Selection.none.setting s d v).config) :
    ({ c with resolver := r } : Controller).Shows s (Selection.none.setting s d v) := by
  obtain ⟨depth, pending, rfl⟩ := h
  exact {
    depth_eq := hd
    clippingSupported_eq := rfl
    locales_eq := rfl
    themes_eq := rfl
    selects := hr
    locale_eq := rfl
    isSelection := ThemeList.isSelection_restore s.themes none
    theme_eq := s.themes.get?_restore_none
    clipping_eq := rfl }

/-- A fresh controller shows the first variant of the first device, and the first theme. -/
theorem shows_ofProvider {d : Device} {v : Variant} (hd : s.devices.head? = some d)
    (hv : d.variants.head? = some v) :
    ∃ c, ofProvider s.provider = .ok c ∧ c.Shows s (Selection.none.setting s d v) := by
  have hdepth : ((initial false []).updateResources s.provider).1.depth = 0 :=
    (settles_updateResources (c := initial false []) (fun _ => rfl) s.provider).depth_eq
  have halike := alike_updateResources (initial false []) s.provider
  have hresolver : ((initial false []).updateResources s.provider).1.resolver = .initial :=
    resolver_updateResources _ _
  -- from here on only these three facts about the resources matter
  generalize hc : ((initial false []).updateResources s.provider).1 = c at *
  have hreload : c.resolver.reload s.devices =
      (({ Resolver.initial with devices := s.devices } : Resolver).withDevice 0 d,
        some (.selected 0 d.name)) := by
    obtain ⟨ds, hds⟩ := List.head?_eq_some_iff.mp hd
    rw [hresolver, hds]
    rfl
  have hget : s.devices[0]? = some d := by rw [← List.head?_eq_getElem?, hd]
  obtain ⟨r, happly, hr⟩ :=
    Resolver.selects_firstVariant (r := { Resolver.initial with devices := s.devices }) hget hv
  rw [Resolver.merge_eq] at hr
  have hattempt := attempt_start hc hdepth hreload happly
  exact ⟨_, by rw [ofProvider, hattempt]; rfl, shows_of_alike hdepth halike hr⟩

/-! ## The choices of a selection -/

/-- The selected device with its first variant. -/
theorem decides_device {d₀ : Device} {v₀ : Variant} (hd : s.devices.head? = some d₀)
    (hv : d₀.variants.head? = some v₀) (h : c.Shows s (Selection.none.setting s d₀ v₀))
    (hvariants : ∀ d ∈ s.devices, d.variants ≠ []) (o : Selection) :
    Decides (o.deviceFaults s)
      (fun next => ∃ d v, o.device? s = some d ∧ d.variants.head? = some v ∧
        next.Shows s (Selection.none.setting s d v))
      (c.chooseAll (o.device.map Choice.device).toList) := by
  unfold Selection.deviceFaults Selection.device?
  cases o.device with
  | none => exact ⟨rfl, d₀, v₀, hd, hv, h⟩
  | some name =>
    show Decides _ _ (c.chooseAll [.device name])
    rw [chooseAll_singleton]
    exact decides_choose_device h name hvariants

theorem decides_variant {d : Device} {v : Variant} (hv : d.variants.head? = some v)
    (h : c.Shows s (Selection.none.setting s d v)) (o : Selection) :
    Decides (o.variantFaults d)
      (fun next => ∃ v, o.variant? d = some v ∧ next.Shows s (Selection.none.setting s d v))
      (c.chooseAll (o.variant.map Choice.variant).toList) := by
  unfold Selection.variantFaults Selection.variant?
  cases o.variant with
  | none => exact ⟨rfl, v, hv, h⟩
  | some name =>
    show Decides _ _ (c.chooseAll [.variant name])
    rw [chooseAll_singleton]
    exact decides_choose_variant h name

variable {d : Device} {v : Variant}

theorem decides_locale (h : c.Shows s (Selection.none.setting s d v)) (o : Selection) :
    Decides (o.localeFaults s)
      (·.Shows s ({ Selection.none with locale := o.locale }.setting s d v))
      (c.chooseAll (o.locale.map Choice.locale).toList) := by
  unfold Selection.localeFaults
  cases o.locale with
  | none => exact ⟨rfl, h⟩
  | some text =>
    show Decides _ _ (c.chooseAll [.locale text])
    rw [chooseAll_singleton]
    exact decides_choose_locale h text

theorem shows_version {l : Option String}
    (h : c.Shows s ({ Selection.none with locale := l }.setting s d v)) (o : Selection) :
    ∃ next, c.chooseAll (o.version.map Choice.version).toList = .ok next ∧
      next.Shows s ({ Selection.none with locale := l, version := o.version }.setting s d v) := by
  cases o.version with
  | none => exact ⟨c, rfl, h⟩
  | some level =>
    show ∃ next, c.chooseAll [.version level] = _ ∧ _
    rw [chooseAll_singleton]
    exact shows_choose_version h level

theorem decides_theme {l : Option String} {n : Option UInt32}
    (h : c.Shows s ({ Selection.none with locale := l, version := n }.setting s d v))
    (o : Selection) :
    Decides (o.themeFaults s)
      (·.Shows s
        ({ Selection.none with locale := l, version := n, theme := o.theme }.setting s d v))
      (c.chooseAll (o.theme.map Choice.theme).toList) := by
  unfold Selection.themeFaults
  cases o.theme with
  | none => exact ⟨rfl, h⟩
  | some name =>
    show Decides _ _ (c.chooseAll [.theme name])
    rw [chooseAll_singleton]
    exact decides_choose_theme h name

theorem shows_clipping {l t : Option String} {n : Option UInt32}
    (h : c.Shows s ({ Selection.none with locale := l, version := n, theme := t }.setting s d v))
    (o : Selection) :
    ∃ next, c.chooseAll (o.clipping.map Choice.clipping).toList = .ok next ∧
      next.Shows s
        ({ Selection.none with
          locale := l, version := n, theme := t, clipping := o.clipping }.setting s d v) := by
  cases o.clipping with
  | none => exact ⟨c, rfl, h⟩
  | some on =>
    show ∃ next, c.chooseAll [.clipping on] = _ ∧ _
    rw [chooseAll_singleton]
    exact shows_choose_clipping h on

/-- The device and the variant are those that a selection means; all else is chosen as in the second
one. -/
def Follows (o o' : Selection) (s : ProjectSnapshot) (c : Controller) : Prop :=
  ∃ d v, o.device? s = some d ∧ o.variant? d = some v ∧ c.Shows s (o'.setting s d v)

/-- All choices of a selection. -/
theorem decides_choices {d₀ : Device} {v₀ : Variant} (hd : s.devices.head? = some d₀)
    (hv : d₀.variants.head? = some v₀) (h : c.Shows s (Selection.none.setting s d₀ v₀))
    (hvariants : ∀ d ∈ s.devices, d.variants ≠ []) (o : Selection) :
    Decides (o.faults s) (Follows o o s) (c.chooseAll o.choices) := by
  unfold Selection.faults Selection.choices
  simp only [chooseAll_append]
  have device := decides_device hd hv h hvariants o
  have variant : Decides (o.deviceFaults s ++ (o.device? s).elim [] o.variantFaults)
      (Follows o Selection.none s) _ :=
    device.bind fun next hnext => by
      obtain ⟨d, v, hd, hv, hnext⟩ := hnext
      rw [hd]
      exact (decides_variant hv hnext o).imp fun _ ⟨v, hv, hlast⟩ => ⟨d, v, hd, hv, hlast⟩
  have locale : Decides _ (Follows o { Selection.none with locale := o.locale } s) _ :=
    variant.bind fun next hnext => by
      obtain ⟨d, v, hd, hv, hnext⟩ := hnext
      exact (decides_locale hnext o).imp fun _ hlast => ⟨d, v, hd, hv, hlast⟩
  have version :
      Decides _ (Follows o { Selection.none with locale := o.locale, version := o.version } s) _ :=
    locale.bind_ok fun next hnext => by
      obtain ⟨d, v, hd, hv, hnext⟩ := hnext
      obtain ⟨last, hlast, hshows⟩ := shows_version hnext o
      exact ⟨last, hlast, d, v, hd, hv, hshows⟩
  have theme : Decides _ (Follows o { o with clipping := .none } s) _ :=
    version.bind fun next hnext => by
      obtain ⟨d, v, hd, hv, hnext⟩ := hnext
      exact (decides_theme hnext o).imp fun _ hlast => ⟨d, v, hd, hv, hlast⟩
  exact theme.bind_ok fun next hnext => by
    obtain ⟨d, v, hd, hv, hnext⟩ := hnext
    obtain ⟨last, hlast, hshows⟩ := shows_clipping hnext o
    exact ⟨last, hlast, d, v, hd, hv, hshows⟩

/-- A selection from a project in which every device has a variant. -/
theorem decides_select (hdevices : s.devices ≠ []) (hvariants : ∀ d ∈ s.devices, d.variants ≠ [])
    (o : Selection) : Decides (o.faults s) (Follows o o s) (select s.provider o) := by
  obtain ⟨d, ds, hds⟩ := List.exists_cons_of_ne_nil hdevices
  have hd : s.devices.head? = some d := by rw [hds, List.head?_cons]
  have hmem : d ∈ s.devices := by rw [hds]; exact List.mem_cons_self
  obtain ⟨v, vs, hvs⟩ := List.exists_cons_of_ne_nil (hvariants d hmem)
  have hv : d.variants.head? = some v := by rw [hvs, List.head?_cons]
  obtain ⟨c, hc, hshows⟩ := shows_ofProvider hd hv
  -- the equation of `select` takes Lean seconds to derive
  delta select
  rw [hc]
  exact decides_choices hd hv hshows hvariants o

end Controller

namespace Report

theorem decides_resolve {f : ProjectFile} {s : ProjectSnapshot} (hs : ProjectSnapshot.build f = .ok s)
    (hd : s.devices ≠ []) (o : Selection) :
    Decides (o.faults s)
      (fun r => ∃ d v, o.device? s = some d ∧ o.variant? d = some v ∧
        (o.setting s d v).IsShown r)
      (resolve s.provider o) := by
  have hvariants : ∀ d ∈ s.devices, d.variants ≠ [] :=
    fun d hd => ProjectSnapshot.variants_ne_nil_of_build hs hd
  refine (Controller.decides_select hd hvariants o).map fun c hc => ?_
  obtain ⟨d, v, hdevice, hvariant, hshows⟩ := hc
  exact ⟨d, v, hdevice, hvariant, hshows.isShown⟩

/-- **What a selection from a project leads to.** It can be made exactly if everything in it is
offered; otherwise the first of its faults is reported. The report shows the setting that the
selection means, with the screen of its variant. -/
theorem resolve_exact {f : ProjectFile} {s : ProjectSnapshot} (hs : ProjectSnapshot.build f = .ok s)
    (hd : s.devices ≠ []) (o : Selection) :
    ((∃ r, resolve s.provider o = .ok r) ↔ o.IsOffered s) ∧
      (∀ fault, resolve s.provider o = .error fault ↔ (o.faults s).head? = some fault) ∧
      ∀ r, resolve s.provider o = .ok r →
        ∃ d v, o.device? s = some d ∧ o.variant? d = some v ∧ (o.setting s d v).IsShown r := by
  have hdecides := decides_resolve hs hd o
  refine ⟨?_, hdecides.eq_error_iff, fun r => hdecides.of_eq_ok⟩
  rw [hdecides.exists_ok_iff, o.faults_eq_nil_iff]

/-- Two devices, whose variants say more than the screen, and one language. Only one of the numbers
of dots per inch is finite. -/
def office : ProjectFile where
  devices := [⟨"Phone", none, none, [⟨"Portrait", "port"⟩]⟩,
    ⟨"Tablet", some (.ofNat 180), some (.infinity false),
      [⟨"Portrait", "fr-port"⟩, ⟨"Landscape", "fr-rCA-land-hdpi-1024x600-v3"⟩]⟩]
  framework := some ⟨[⟨"Theme", none⟩], ∅, ∅⟩
  project := some ⟨[⟨"App", some "@android:style/Theme"⟩], ∅, .ofList [("en", ["US"])]⟩

/-- A choice of everything. -/
def officeChoice : Selection :=
  ⟨some "Tablet", some "Landscape", some "en_US", some "App", some 7, some false⟩

/-- The locale and the version are those that are chosen, not those of the variant, and the screen is
that of the variant. -/
theorem resolve_exact_of_office :
    ∃ s r, ProjectSnapshot.build office = .ok s ∧ s.devices ≠ [] ∧
      resolve s.provider officeChoice = .ok r ∧
      r.configuration = some "en-rUS-land-hdpi-1024x600-v7" ∧ r.density = .high ∧
      r.bounds = ⟨1024, 600⟩ ∧ r.xdpi.IsNat 180 ∧ r.ydpi.IsNat 240 ∧
      ∃ d v, officeChoice.device? s = some d ∧ officeChoice.variant? d = some v ∧
        (officeChoice.setting s d v).IsShown r := by
  have hrun : ((ProjectSnapshot.build office).toOption.bind fun s =>
      (resolve s.provider officeChoice).toOption.map fun r =>
        (s.devices.length, r.configuration, r.density, r.bounds, r.xdpi, r.ydpi)) =
      some (2, some "en-rUS-land-hdpi-1024x600-v7", .high, ⟨1024, 600⟩, ⟨0x43340000⟩,
        ⟨0x43700000⟩) := by decide +kernel
  cases hs : ProjectSnapshot.build office with
  | error fault => simp [hs, Except.toOption] at hrun
  | ok s =>
    cases hr : resolve s.provider officeChoice with
    | error fault => simp [hs, hr, Except.toOption] at hrun
    | ok r =>
      simp only [hs, hr, Except.toOption, Option.bind_some, Option.map_some, Option.some.injEq,
        Prod.mk.injEq] at hrun
      obtain ⟨hdevices, hconfiguration, hdensity, hbounds, hxdpi, hydpi⟩ := hrun
      have hd : s.devices ≠ [] := List.ne_nil_of_length_eq_add_one hdevices
      refine ⟨s, r, rfl, hd, hr, hconfiguration, hdensity, hbounds, ?_, ?_,
        (resolve_exact hs hd officeChoice).2.2 r hr⟩
      · rw [hxdpi]
        exact ⟨⟨0xB40000, -16⟩, by decide, by decide⟩
      · rw [hydpi]
        exact ⟨⟨0xF00000, -16⟩, by decide, by decide⟩

end Report

end ConfigBar
