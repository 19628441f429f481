import ConfigBar.Proofs.Controller.Facets
import ConfigBar.Proofs.Report.Choices
/-!
# The names in a report

A selection gives names, and a report shows names. Each choice is about one facet of the controller,
so a name that one choice has brought in is still there after the later ones. The device and the
theme of a report are those of the selection for every provider of resources. The variant is so if
there are devices; without any, the name of a variant is passed over.

* `view_chooseAll` — choices leave the other facets alone
* `device?_of_choose_device`, `variant?_of_choose_variant`, `theme?_of_choose_theme` — what the
  choices of names lead to
* `Report.names_of_resolve` — the names in the report of any selection
-/

namespace ConfigBar

/-! ## The device in the resolver -/

namespace Resolver

variable {r next : Resolver}

theorem device_step_applySelected (r : Resolver) :
    (r.step .applySelected).devices = r.devices ∧ (r.step .applySelected).device? = r.device? :=
  r.device_step rfl

/-- Without a selected device, a fresh resolver takes the first one of a catalog. -/
theorem device_reload_initial (devices : List Device) :
    (initial.reload devices).1.devices = devices ∧
      (initial.reload devices).1.device? = devices.head? := by
  cases devices with
  | nil => exact ⟨rfl, rfl⟩
  | cons d ds => exact ⟨rfl, rfl⟩

theorem device_selectDevice {i : Nat} {d : Device} (h : r.devices[i]? = some d) :
    (r.selectDevice i).1.devices = r.devices ∧ (r.selectDevice i).1.device? = some d := by
  simp only [selectDevice, h]
  exact ⟨rfl, h⟩

/-- Without a device no variant is selected. -/
theorem Coherent.variant?_eq_none (h : r.Coherent) (hd : r.device? = none) : r.variant? = none := by
  cases hv : r.variant? with
  | none => rfl
  | some name =>
    obtain ⟨d, q, hd', -⟩ := h.exists_named? (mem_variantNames_of_variant? hv)
    rw [hd] at hd'
    cases hd'

/-- The application of a variant by its name selects it, or there is no device and it does
nothing. -/
theorem Coherent.variant?_of_applyVariant (h : r.Coherent) {name : String} {changed : Bool}
    (happly : r.applyVariant name = .ok (next, changed)) :
    (r.device? = none ∧ next.variant? = none) ∨
      (r.device? ≠ none ∧ next.variant? = some name) := by
  cases changed with
  | false =>
    obtain ⟨hd, rfl⟩ := applyVariant_eq_ok_false_iff.mp happly
    exact Or.inl ⟨hd, h.variant?_eq_none hd⟩
  | true =>
    obtain ⟨d, q, hd, hq, hnext⟩ := applyVariant_eq_ok_true_iff.mp happly
    have hmerges : r.Merges name q next := ⟨by rw [named?, hd, Option.bind_some, hq], hnext⟩
    obtain ⟨i, hi, hget⟩ := hmerges.variantIndex_eq h
    refine Or.inr ⟨by simp [hd], ?_⟩
    rw [variant?, hi, Option.bind_some, hget]

end Resolver

/-! ## Choices and facets -/

/-- The facet that a choice is about. -/
def Choice.facet : Choice → Facet
  | .device _ => .device
  | .variant _ => .device
  | .locale _ => .locale
  | .version _ => .version
  | .theme _ => .theme
  | .clipping _ => .clipping

namespace Controller

variable {c next last : Controller} {choice : Choice} {r : Request} {f : Facet}

theorem request_of_choice (h : choice.request c = .ok r) :
    r.isRebuild = false ∧ r.provider? = none ∧ r.facets = [choice.facet] := by
  cases choice with
  | device name =>
    simp only [Choice.request] at h
    split at h <;> cases h
    exact ⟨rfl, rfl, rfl⟩
  | locale text =>
    simp only [Choice.request] at h
    split at h <;> cases h <;> exact ⟨rfl, rfl, rfl⟩
  | theme name =>
    simp only [Choice.request] at h
    split at h <;> cases h
    exact ⟨rfl, rfl, rfl⟩
  | _ =>
    cases h
    exact ⟨rfl, rfl, rfl⟩

theorem step_of_attempt (h : c.attempt r = .ok next) : c.step r = next := by
  unfold attempt at h
  unfold step
  split at h
  · cases h
  · next hp =>
    cases h
    rw [hp]

/-- A choice that is made is a request that succeeds. -/
theorem exists_request_of_choose (h : c.choose choice = .ok next) :
    ∃ r, choice.request c = .ok r ∧ c.attempt r = .ok next ∧ c.step r = next := by
  unfold choose at h
  cases hr : choice.request c with
  | error fault =>
    rw [hr] at h
    cases h
  | ok r =>
    rw [hr] at h
    cases ha : c.attempt r with
    | error cause =>
      simp only [ha] at h
      cases h
    | ok next' =>
      simp only [ha] at h
      cases h
      exact ⟨r, rfl, ha, step_of_attempt ha⟩

theorem reachable_choose (hc : Reachable c) (h : c.choose choice = .ok next) : Reachable next := by
  obtain ⟨r, -, -, rfl⟩ := exists_request_of_choose h
  exact hc.step r

/-- A choice leaves the facets alone that it is not about. -/
theorem view_choose (h : c.choose choice = .ok next) (hf : f ≠ choice.facet) :
    next.view f = c.view f := by
  obtain ⟨r, hr, -, rfl⟩ := exists_request_of_choose h
  obtain ⟨hsingle, -, hfacets⟩ := request_of_choice hr
  refine view_step hsingle ?_
  rw [hfacets, List.mem_singleton]
  exact hf

/-- Choices leave the facets alone that none of them is about. -/
theorem view_chooseAll {choices : List Choice} (h : c.chooseAll choices = .ok next)
    (hf : ∀ choice ∈ choices, f ≠ choice.facet) : next.view f = c.view f := by
  induction choices generalizing c with
  | nil =>
    cases h
    rfl
  | cons choice rest ih =>
    rw [chooseAll] at h
    split at h
    · cases h
    · next mid hmid =>
      rw [ih h fun choice hm => hf choice (List.mem_cons_of_mem _ hm),
        view_choose hmid (hf choice List.mem_cons_self)]

theorem exists_of_chooseAll_append {xs ys : List Choice} (h : c.chooseAll (xs ++ ys) = .ok last) :
    ∃ mid, c.chooseAll xs = .ok mid ∧ mid.chooseAll ys = .ok last := by
  rw [chooseAll_append] at h
  cases hx : c.chooseAll xs with
  | error fault =>
    rw [hx] at h
    cases h
  | ok mid =>
    rw [hx] at h
    exact ⟨mid, rfl, h⟩

theorem reachable_chooseAll {choices : List Choice} (hc : Reachable c)
    (h : c.chooseAll choices = .ok next) : Reachable next := by
  induction choices generalizing c with
  | nil =>
    cases h
    exact hc
  | cons choice rest ih =>
    rw [chooseAll] at h
    split at h
    · cases h
    · next mid hmid => exact ih (reachable_choose hc hmid) h

/-- The selected device and variant belong to the facet of the devices. -/
theorem device?_eq_of_view (h : next.view .device = c.view .device) :
    next.resolver.device? = c.resolver.device? ∧
      next.resolver.variant? = c.resolver.variant? := by
  obtain ⟨q, hq, -⟩ := Resolver.exists_current (r := c.resolver) (s := next.resolver) h.symm
  rw [hq]
  exact ⟨rfl, rfl⟩

/-! ## Choices of names -/

/-- A device that is chosen is selected. -/
theorem device?_of_choose_device {name : String} (h : c.choose (.device name) = .ok next) :
    next.resolver.devices = c.resolver.devices ∧
      ∃ d, next.resolver.device? = some d ∧ d.name = name := by
  obtain ⟨r, hr, -, rfl⟩ := exists_request_of_choose h
  simp only [Choice.request] at hr
  obtain ⟨-, hi, -⟩ | ⟨i, d, -, hi, hget, hfind⟩ :=
    findIdx?_map_cases Device.name name c.resolver.devices
  · simp only [Resolver.deviceNames, hi] at hr
    cases hr
  · simp only [Resolver.deviceNames, hi] at hr
    cases hr
    have hlt : i < c.resolver.devices.length := (List.getElem?_eq_some_iff.mp hget).1
    have hops : c.resolverOps (.selectDevice i) = [.selectDevice i, .applySelected] := if_pos hlt
    -- the variant that is applied afterwards leaves the device selected
    obtain ⟨hdevices, hdevice⟩ := Resolver.device_selectDevice hget
    obtain ⟨hdevices', hdevice'⟩ :=
      (c.resolver.step (.selectDevice i)).device_step_applySelected
    rw [resolver_step rfl, hops, Resolver.run_cons, Resolver.run_cons, Resolver.run_nil, hdevices',
      hdevice']
    exact ⟨hdevices, d, hdevice, by simpa using List.find?_some hfind⟩

/-- A variant that is chosen is selected. Without a device the choice does nothing. -/
theorem variant?_of_choose_variant (hc : Reachable c) {name : String}
    (h : c.choose (.variant name) = .ok next) :
    next.resolver.device? = c.resolver.device? ∧
      ((c.resolver.device? = none ∧ next.resolver.variant? = none) ∨
        (c.resolver.device? ≠ none ∧ next.resolver.variant? = some name)) := by
  obtain ⟨r, hr, hattempt, rfl⟩ := exists_request_of_choose h
  cases hr
  have hresolver : (c.step (.selectVariant name)).resolver =
      c.resolver.step (.applyVariant name) := resolver_step rfl
  rw [hresolver]
  refine ⟨(c.resolver.device_step rfl).2, ?_⟩
  rw [attempt_eq (o := c.afterVariant (c.resolver.applyVariant name)) rfl] at hattempt
  rw [Resolver.step_applyVariant]
  cases happly : c.resolver.applyVariant name with
  | error e =>
    rw [happly] at hattempt
    cases hattempt
  | ok p => exact (coherent_of_reachable hc).variant?_of_applyVariant happly

/-- A theme that is chosen is selected. -/
theorem theme?_of_choose_theme {name : String} (h : c.choose (.theme name) = .ok next) :
    next.theme? = some name := by
  obtain ⟨r, hr, -, rfl⟩ := exists_request_of_choose h
  simp only [Choice.request] at hr
  cases hi : c.themes.position? name with
  | none =>
    rw [hi] at hr
    cases hr
  | some i =>
    rw [hi] at hr
    cases hr
    obtain ⟨hlt, hp, -⟩ := List.findIdx?_eq_some_iff_getElem.mp hi
    rw [Bool.and_eq_true, Bool.not_eq_true', beq_iff_eq] at hp
    have hget : c.themes.get? i = some c.themes.entries[i] := List.getElem?_eq_getElem hlt
    have hbeside : c.beside (.selectTheme i) = { c with themeIndex := some i } := by
      simp only [beside, hget, hp.1, Bool.false_eq_true, if_false]
    rw [(alike_after c rfl).theme?_eq, after_eq, hbeside]
    exact (theme?_of_themeIndex (c := { c with themeIndex := some i }) rfl hget).trans
      (congrArg some hp.2)

/-! ## The start -/

theorem step_of_ofProvider {p : Provider} (h : ofProvider p = .ok c) :
    (initial false []).step (.start p) = c := by
  unfold ofProvider at h
  cases ha : (initial false []).attempt (.start p) with
  | error cause =>
    rw [ha] at h
    cases h
  | ok c' =>
    rw [ha] at h
    cases h
    exact step_of_attempt ha

/-- A fresh controller that has taken over a provider. -/
theorem device?_of_ofProvider {p : Provider} (h : ofProvider p = .ok c) :
    Reachable c ∧ c.resolver.devices = p.devices ∧ c.resolver.device? = p.devices.head? := by
  obtain rfl := step_of_ofProvider h
  obtain ⟨hdevices, hdevice⟩ := Resolver.device_reload_initial p.devices
  obtain ⟨hdevices', hdevice'⟩ :=
    (Resolver.initial.step (.reload p.devices)).device_step_applySelected
  rw [resolver_step rfl]
  exact ⟨(Reachable.initial false []).step _, hdevices'.trans hdevices, hdevice'.trans hdevice⟩

/-! ## The choices of a selection -/

/-- A choice that may be missing leaves the facets alone that it is not about. -/
theorem view_of_chosen {α : Type} {make : α → Choice} {a : Option α}
    (h : c.chooseAll (a.map make).toList = .ok next) (hf : ∀ x, f ≠ (make x).facet) :
    next.view f = c.view f := by
  refine view_chooseAll h fun choice hm => ?_
  obtain ⟨x, -, rfl⟩ := Option.map_eq_some_iff.mp (Option.mem_toList.mp hm)
  exact hf x

/-- After the choice of a device, one is selected if there is any. -/
theorem device?_of_chosen {devices : List Device} (hdevices : c.resolver.devices = devices)
    (hdevice : c.resolver.device? = devices.head?) {name? : Option String}
    (h : c.chooseAll (name?.map Choice.device).toList = .ok next) :
    (next.resolver.device? = none ↔ devices = []) ∧
      ∀ name, name? = some name → ∃ d, next.resolver.device? = some d ∧ d.name = name := by
  cases name? with
  | none =>
    cases h
    rw [hdevice, List.head?_eq_none_iff]
    exact ⟨.rfl, nofun⟩
  | some name =>
    obtain ⟨hsame, d, hd, hname⟩ :=
      device?_of_choose_device ((chooseAll_singleton _).symm.trans h)
    refine ⟨⟨fun hnone => ?_, fun hnil => ?_⟩, ?_⟩
    · rw [hd] at hnone
      cases hnone
    · -- an empty catalog has no device to select
      rw [Resolver.device?, hsame, hdevices, hnil]
      cases next.resolver.deviceIndex <;> rfl
    · rintro _ ⟨⟩
      exact ⟨d, hd, hname⟩

theorem variant?_of_chosen (hc : Reachable c) {name? : Option String}
    (h : c.chooseAll (name?.map Choice.variant).toList = .ok next) :
    next.resolver.device? = c.resolver.device? ∧
      ∀ name, name? = some name →
        (c.resolver.device? = none ∧ next.resolver.variant? = none) ∨
          (c.resolver.device? ≠ none ∧ next.resolver.variant? = some name) := by
  cases name? with
  | none =>
    cases h
    exact ⟨rfl, nofun⟩
  | some name =>
    obtain ⟨hdevice, hvariant⟩ :=
      variant?_of_choose_variant hc ((chooseAll_singleton _).symm.trans h)
    refine ⟨hdevice, ?_⟩
    rintro _ ⟨⟩
    exact hvariant

theorem theme?_of_chosen {name? : Option String}
    (h : c.chooseAll (name?.map Choice.theme).toList = .ok next) (name : String)
    (hname : name? = some name) : next.theme? = some name := by
  subst hname
  exact theme?_of_choose_theme ((chooseAll_singleton _).symm.trans h)

/-- The choices of a selection: those after the device and the variant are about other facets, and
so is the one after the theme. -/
theorem exists_stages {o : Selection} (h : c.chooseAll o.choices = .ok last) :
    ∃ equipped varied versioned themed : Controller,
      c.chooseAll (o.device.map Choice.device).toList = .ok equipped ∧
        equipped.chooseAll (o.variant.map Choice.variant).toList = .ok varied ∧
          last.view .device = varied.view .device ∧
            versioned.chooseAll (o.theme.map Choice.theme).toList = .ok themed ∧
              last.view .theme = themed.view .theme := by
  obtain ⟨themed, h, hclipping⟩ := exists_of_chooseAll_append h
  obtain ⟨versioned, h, htheme⟩ := exists_of_chooseAll_append h
  obtain ⟨located, h, hversion⟩ := exists_of_chooseAll_append h
  obtain ⟨varied, h, hlocale⟩ := exists_of_chooseAll_append h
  obtain ⟨equipped, hdevice, hvariant⟩ := exists_of_chooseAll_append h
  refine ⟨equipped, varied, versioned, themed, hdevice, hvariant, ?_, htheme, ?_⟩
  · calc last.view .device
        = themed.view .device := view_of_chosen hclipping fun _ => nofun
      _ = versioned.view .device := view_of_chosen htheme fun _ => nofun
      _ = located.view .device := view_of_chosen hversion fun _ => nofun
      _ = varied.view .device := view_of_chosen hlocale fun _ => nofun
  · exact view_of_chosen hclipping fun _ => nofun

/-- The names that a controller shows after a selection. -/
theorem names_of_select {p : Provider} {o : Selection} (h : select p o = .ok c) :
    (∀ name, o.device = some name → c.resolver.device?.map Device.name = some name) ∧
      (∀ name, o.theme = some name → c.theme? = some name) ∧
        ∀ name, o.variant = some name →
          c.resolver.variant? = if p.devices.isEmpty then none else some name := by
  -- the equation of `select` takes Lean seconds to derive
  delta select at h
  cases hstart : ofProvider p with
  | error fault =>
    rw [hstart] at h
    cases h
  | ok start =>
    rw [hstart] at h
    obtain ⟨hreachable, hdevices, hfirst⟩ := device?_of_ofProvider hstart
    obtain ⟨equipped, varied, versioned, themed, hdevice, hvariant, hlater, htheme, hlast⟩ :=
      exists_stages h
    obtain ⟨hdevice?, hvariant?⟩ := device?_eq_of_view hlater
    obtain ⟨hnone, hequipped⟩ := device?_of_chosen hdevices hfirst hdevice
    obtain ⟨hsame, hvaried⟩ := variant?_of_chosen (reachable_chooseAll hreachable hdevice) hvariant
    refine ⟨fun name hname => ?_, fun name hname => ?_, fun name hname => ?_⟩
    · obtain ⟨d, hd, hdname⟩ := hequipped name hname
      rw [hdevice?, hsame, hd, Option.map_some, hdname]
    · rw [theme?_eq_of_view hlast]
      exact theme?_of_chosen htheme name hname
    · rw [hvariant?]
      rcases hvaried name hname with ⟨hd, hv⟩ | ⟨hd, hv⟩
      · rw [hv, hnone.mp hd]
        rfl
      · rw [hv, if_neg (mt List.isEmpty_iff.mp (mt hnone.mpr hd))]

end Controller

namespace Report

/-- **A report shows the names of the selection**, whatever the provider. The device and the theme
that are named are those of the report. So is the variant if there are devices; if there are none,
its name is passed over and the report shows no variant. -/
theorem names_of_resolve {p : Provider} {o : Selection} {r : Report} (h : resolve p o = .ok r) :
    (∀ name, o.device = some name → r.device = some name) ∧
      (∀ name, o.theme = some name → r.theme = some name) ∧
        ∀ name, o.variant = some name →
          r.variant = if p.devices.isEmpty then none else some name := by
  unfold resolve at h
  cases hselect : Controller.select p o with
  | error fault =>
    rw [hselect] at h
    cases h
  | ok c =>
    rw [hselect] at h
    cases h
    exact Controller.names_of_select hselect

/-- A provider of a device without variants and one with two variants of the same name, of a theme of
the framework and of one of the project. -/
def workbench : Provider :=
  { Controller.themeProvider ["Theme"] with
    devices := [Controller.emptyDevice, Controller.doubledDevice] }

/-- The names of the second device, of its variants and of the project theme. -/
theorem names_of_resolve_of_workbench :
    let o : Selection :=
      { Selection.none with device := some "Phone", variant := some "Screen", theme := some "Mine" }
    ∃ r, resolve workbench o = .ok r ∧ r.device = some "Phone" ∧ r.variant = some "Screen" ∧
      r.theme = some "Mine" := by
  intro o
  have hrun : (resolve workbench o).toOption.isSome = true := by decide +kernel
  cases hr : resolve workbench o with
  | error fault =>
    rw [hr] at hrun
    cases hrun
  | ok r =>
    obtain ⟨hdevice, htheme, hvariant⟩ := names_of_resolve hr
    exact ⟨r, rfl, hdevice _ rfl, hvariant _ rfl, htheme _ rfl⟩

/-- Without devices the name of a variant is accepted, and the report shows no variant. -/
theorem variant_passed_over_without_devices :
    let o : Selection := { Selection.none with variant := some "Portrait" }
    ∃ r, resolve (Controller.deviceProvider []) o = .ok r ∧ r.variant = none := by
  intro o
  have hrun : (resolve (Controller.deviceProvider []) o).toOption.map Report.variant =
      some none := by decide +kernel
  cases hr : resolve (Controller.deviceProvider []) o with
  | error fault =>
    rw [hr] at hrun
    cases hrun
  | ok r =>
    rw [hr] at hrun
    exact ⟨r, rfl, Option.some.inj hrun⟩

end Report

end ConfigBar
