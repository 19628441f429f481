import ConfigBar.Proofs.Controller.Deferral
import ConfigBar.Proofs.Controller.Facets
import ConfigBar.Proofs.Controller.Performed
/-!
# Changes that are told

Outside of rebuilds a listener is told what a request raises. A property of the state that every
single request keeps unless it raises a notice is therefore kept by a program of which the listener
is not told that notice.

* `mem_signals_iff` — what the listener is told
* `StepRelation.of_not_mem_raised` — from single requests that do not raise a notice to programs
* `told_of_screen_change` — the effective configuration and the screen
* `told_of_theme_change` — the selected theme and its owner
-/

namespace ConfigBar

namespace Controller

variable {c : Controller} {r : Request} {n : Notice}

/-- Outside of rebuilds a listener is told of a change if and only if the request raises it. -/
theorem mem_signals_iff (h : Reachable c) (hd : c.depth = 0) (hl : c.listening = true)
    (hr : r.endsNormally = true) : .notice n ∈ c.signals r ↔ .notice n ∈ c.raised r := by
  have hq := quiet_of_reachable h
  by_cases hb : r.isRebuild = true
  · obtain ⟨body, broken, rfl⟩ := Request.exists_of_isRebuild hb
    have hbroken : broken = false := by simpa [Request.endsNormally] using hr
    subst hbroken
    -- the end of the rebuild delivers each notice that was raised in it, whatever broke off inside
    rw [signals_outermost hq hd, raised, deliver, if_pos hl, ← Signal.mem_notices,
      ← Signal.mem_notices]
    simp
  · rw [(settles_single hq (Bool.eq_false_iff.mpr hb)).signals_of_listening hl hd]

/-- A relation that is kept by every single request that does not raise a notice is kept by every
program that does not raise it. -/
theorem StepRelation.of_not_mem_raised {R : Controller → Controller → Prop} (hR : StepRelation R)
    (single : ∀ x ∈ c.performed r, Reachable x.1 → x.2.isRebuild = false →
      .notice n ∉ x.1.raised x.2 → R x.1 (x.1.step x.2))
    (h : Reachable c) (hn : .notice n ∉ c.raised r) : R c (c.step r) := by
  refine hR.of_performed r c fun x hx => ?_
  refine single x hx (reachable_of_mem_performed r c h x hx) (isRebuild_of_mem_performed r c x hx) ?_
  -- what the single request raises the program would raise
  intro hraised
  rw [raised_eq] at hn
  exact hn (List.mem_flatMap.mpr ⟨x, hx, hraised⟩)

end Controller

/-! ## The screen -/

namespace Resolver

variable {r s t : Resolver}

/-- No device is selected, or one without variants. -/
def LacksVariants (r : Resolver) : Prop := ∀ d, r.device? = some d → d.variants = []

/-- The selected variant can be applied, unless the selected device has none. -/
theorem Coherent.applySelected_cases (h : r.Coherent) :
    (∃ next, r.applySelected = .ok (next, true)) ∨
      r.applySelected = .ok (r, false) ∧ r.LacksVariants := by
  by_cases hn : r.variantNames = []
  · refine Or.inr ⟨applySelected_of_variantIndex (h.variantIndex_eq_none hn), fun d hd => ?_⟩
    have hnames : d.variantNames = [] := (h.variantNames_eq hd).symm.trans hn
    exact List.map_eq_nil_iff.mp hnames
  · obtain ⟨i, hi⟩ := Option.isSome_iff_exists.mp (h.isSome_variantIndex.mpr hn)
    have hlt : i < r.variantNames.length := h.variantIndex_lt i hi
    have hv : r.variant? = some r.variantNames[i] := by
      rw [variant?, hi, Option.bind_some, List.getElem?_eq_getElem hlt]
    obtain ⟨next, q, happly, -⟩ := h.applyVariant_eq_ok (mem_variantNames_of_variant? hv)
    refine Or.inl ⟨next, ?_⟩
    rw [applySelected, hv]
    exact happly

/-- The screen is kept: the effective configuration is as before, and so is the device, unless it
has been replaced by one without variants or by none. -/
structure KeepsScreen (r s : Resolver) : Prop where
  current_eq : s.current = r.current
  device_cases : s.device? = r.device? ∨ s.LacksVariants

namespace KeepsScreen

theorem refl (r : Resolver) : r.KeepsScreen r := ⟨rfl, Or.inl rfl⟩

theorem trans (h : r.KeepsScreen s) (h' : s.KeepsScreen t) : r.KeepsScreen t where
  current_eq := h'.current_eq.trans h.current_eq
  device_cases := by
    rcases h'.device_cases with ht | ht
    · rcases h.device_cases with hs | hs
      · exact Or.inl (ht.trans hs)
      · exact Or.inr fun d hd => hs d (ht ▸ hd)
    · exact Or.inr ht

/-- With the device, the screen keeps its dots per inch. -/
theorem dpi_eq (h : r.KeepsScreen s) (hd : s.device? = r.device?) :
    s.xdpi = r.xdpi ∧ s.ydpi = r.ydpi := by
  simp only [xdpi, ydpi, nominalDpi, density, hd, h.current_eq, and_self]

end KeepsScreen

/-- If another device is taken up and no variant of it is applied, it has none. -/
theorem Coherent.keepsScreen_applySelected (h : s.Coherent) (hs : s.current = r.current)
    (hn : ∀ next, s.applySelected ≠ .ok (next, true)) : r.KeepsScreen (s.step .applySelected) := by
  rcases h.applySelected_cases with ⟨next, hnext⟩ | ⟨hidle, hlacks⟩
  · exact absurd hnext (hn next)
  · rw [step_applySelected, hidle]
    exact ⟨hs, Or.inr hlacks⟩

/-- An application that changes nothing leaves the state as it is. -/
theorem afterApplying_eq {result : Except SelectionError (Resolver × Bool)}
    (hr : ∀ next, result = .ok (next, false) → next = r)
    (hn : ∀ next, result ≠ .ok (next, true)) : r.afterApplying result = r := by
  match result with
  | .error e => rfl
  | .ok (next, true) => exact absurd rfl (hn next)
  | .ok (next, false) => exact hr next rfl

/-- Without a device a variant at an index is not applied, as one with a name is not. -/
theorem eq_of_applyVariantAt {i : Nat} (h : r.applyVariantAt i = .ok (s, false)) : s = r := by
  unfold applyVariantAt at h
  split at h
  · cases h
  · exact (applyVariant_eq_ok_false_iff.mp h).2

end Resolver

namespace Controller

variable {c : Controller} {r : Request}

theorem ne_ok_true_of_not_mem_raisedByVariant {result : Except SelectionError (Resolver × Bool)}
    (h : .notice .configuration ∉ raisedByVariant result) (next : Resolver) :
    result ≠ .ok (next, true) := by
  rintro rfl
  exact h (List.mem_singleton_self _)

/-- After a reload the variant is applied that is then selected, or there is none. -/
theorem raisedByDevice_reload (r : Resolver) (devices : List Device) :
    raisedByDevice (r.reload devices) = raisedByVariant (r.reload devices).1.applySelected := by
  have hcases := r.reload_cases devices
  revert hcases
  cases r.reload devices with
  | mk next selection =>
    rintro (⟨i, name, rfl⟩ | ⟨rfl, hv⟩)
    · rfl
    · rw [Resolver.applySelected_of_variantIndex hv]
      rfl

/-- The application of a variant keeps the screen if it changes nothing. -/
theorem keepsScreen_afterApplying {r : Resolver}
    {result : Except SelectionError (Resolver × Bool)}
    (hr : ∀ next, result = .ok (next, false) → next = r)
    (hn : .notice .configuration ∉ raisedByVariant result) :
    r.KeepsScreen (r.afterApplying result) := by
  rw [Resolver.afterApplying_eq hr (ne_ok_true_of_not_mem_raisedByVariant hn)]
  exact .refl r

theorem keepsScreen_reload (r : Resolver) (devices : List Device)
    (hn : .notice .configuration ∉ raisedByDevice (r.reload devices)) :
    r.KeepsScreen (r.run [.reload devices, .applySelected]) := by
  rw [raisedByDevice_reload] at hn
  exact (r.coherent_reload devices).keepsScreen_applySelected (r.current_reload devices)
    (ne_ok_true_of_not_mem_raisedByVariant hn)

theorem keepsScreen_selectDevice {r : Resolver} (h : r.Coherent) (i : Nat)
    (hn : .notice .configuration ∉ raisedByDevice ((r.selectDevice i).map id some)) :
    r.KeepsScreen (r.run (if i < r.devices.length then [.selectDevice i, .applySelected] else [])) := by
  by_cases hi : i < r.devices.length
  · rw [if_pos hi]
    have hnone : .notice .configuration ∉ raisedByVariant (r.selectDevice i).1.applySelected := by
      simpa [Resolver.selectDevice, hi, raisedByDevice] using hn
    exact (Resolver.coherent_selectDevice h i).keepsScreen_applySelected (r.current_selectDevice i)
      (ne_ok_true_of_not_mem_raisedByVariant hnone)
  · rw [if_neg hi]
    exact .refl r

/-- A locale that is selected outside of rebuilds is told, and in a rebuild it is ignored. -/
theorem resolverOps_selectLocale {i : Nat}
    (hn : .notice .configuration ∉ c.raised (.selectLocale i)) :
    c.resolverOps (.selectLocale i) = [] := by
  rw [raised] at hn
  simp only [resolverOps]
  cases he : c.locales.get? i with
  | none => rfl
  | some e =>
    by_cases hd : c.depth = 0
    · rw [he, if_pos ⟨rfl, hd⟩] at hn
      exact absurd (List.mem_singleton_self _) hn
    · exact if_pos (isRebuilding_iff.mpr hd)

theorem resolverOps_typeLocale {text : String}
    (hn : .notice .configuration ∉ c.raised (.typeLocale text)) :
    c.resolverOps (.typeLocale text) = [] := by
  rw [raised] at hn
  simp only [resolverOps]
  cases hl : Locale.parse text with
  | error e => rfl
  | ok l =>
    rw [hl] at hn
    exact absurd (List.mem_singleton_self _) hn

/-- **A single request that does not raise a change of the configuration keeps the screen.** -/
theorem keepsScreen_single (h : Reachable c) (hr : r.isRebuild = false)
    (hn : .notice .configuration ∉ c.raised r) :
    c.resolver.KeepsScreen (c.step r).resolver := by
  rw [resolver_step hr]
  -- a device brings a variant to apply, and what else changes the configuration is always told
  cases r with
  | start p =>
    rw [raised, List.mem_append, not_or] at hn
    exact keepsScreen_reload _ _ hn.2
  | reloadDevices p =>
    rw [raised] at hn
    exact keepsScreen_reload _ _ hn
  | selectDevice i =>
    rw [raised] at hn
    exact keepsScreen_selectDevice (coherent_of_reachable h) i hn
  | selectVariant name =>
    rw [raised] at hn
    show c.resolver.KeepsScreen (c.resolver.step (.applyVariant name))
    rw [Resolver.step_applyVariant]
    exact keepsScreen_afterApplying
      (fun _ hnext => (Resolver.applyVariant_eq_ok_false_iff.mp hnext).2) hn
  | selectVariantAt i =>
    rw [raised] at hn
    show c.resolver.KeepsScreen (c.resolver.step (.applyVariantAt i))
    rw [Resolver.step_applyVariantAt]
    exact keepsScreen_afterApplying (fun _ hnext => Resolver.eq_of_applyVariantAt hnext) hn
  | selectLocale i =>
    rw [resolverOps_selectLocale hn]
    exact .refl _
  | typeLocale text =>
    rw [resolverOps_typeLocale hn]
    exact .refl _
  | setVersion version =>
    rw [raised] at hn
    exact absurd (List.mem_singleton_self _) hn
  | rebuild body broken => cases hr
  | _ => exact .refl _

theorem stepRelation_keepsScreen :
    StepRelation fun a b => a.resolver.KeepsScreen b.resolver where
  alike hab := by
    rw [hab.resolver_eq]
    exact .refl _
  trans := .trans

/-- **Changes of the screen are told.** If the effective configuration, the density or the bounds
differ after a request, or after a program in a rebuild that ends normally, the listener has been
told. If the dots per inch differ, the listener has been told as well, unless the selected device
has been replaced by one without variants, or by none: then no variant is applied that could be
told. -/
theorem told_of_screen_change (h : Reachable c) (hl : c.listening = true) (hd : c.depth = 0)
    (hr : r.endsNormally = true) :
    ((c.step r).resolver.current ≠ c.resolver.current ∨
        (c.step r).resolver.density ≠ c.resolver.density ∨
        (c.step r).resolver.bounds ≠ c.resolver.bounds →
      Signal.notice .configuration ∈ c.signals r) ∧
      ((c.step r).resolver.xdpi ≠ c.resolver.xdpi ∨ (c.step r).resolver.ydpi ≠ c.resolver.ydpi →
        Signal.notice .configuration ∈ c.signals r ∨
          (c.step r).resolver.device? ≠ c.resolver.device? ∧
            (c.step r).resolver.LacksVariants) := by
  by_cases htold : Signal.notice .configuration ∈ c.signals r
  · exact ⟨fun _ => htold, fun _ => Or.inl htold⟩
  · have hn : .notice .configuration ∉ c.raised r := mt (mem_signals_iff h hd hl hr).mpr htold
    have hkeeps : c.resolver.KeepsScreen (c.step r).resolver :=
      stepRelation_keepsScreen.of_not_mem_raised (fun _ _ => keepsScreen_single) h hn
    refine ⟨fun hdiffers => ?_, fun hdiffers => Or.inr ?_⟩
    · -- the density and the bounds are those of the effective configuration
      simp only [Resolver.density, Resolver.bounds, hkeeps.current_eq, ne_eq, not_true_eq_false,
        or_self] at hdiffers
    · have hdevice : (c.step r).resolver.device? ≠ c.resolver.device? := by
        intro heq
        obtain ⟨hx, hy⟩ := hkeeps.dpi_eq heq
        exact hdiffers.elim (absurd hx) (absurd hy)
      exact ⟨hdevice, hkeeps.device_cases.resolve_left hdevice⟩

/-- A device with one variant, and with the same dots per inch in both directions. -/
def portraitDevice (name : String) (dpi : Nat) : Device :=
  ⟨name, [⟨"Portrait", oriented .portrait⟩], some (.ofNat dpi), some (.ofNat dpi)⟩

/-- Another device with the same variant is selected in a rebuild that breaks off within another
one: only the dots per inch change, and the listener is told. -/
theorem told_of_screen_change_of_finer_device :
    let c := (initial true []).run
      [.reloadDevices (deviceProvider [portraitDevice "Phone" 180, portraitDevice "Tablet" 320])]
    let r : Request := .rebuild [.rebuild [.selectDevice 1] true] false
    (c.step r).resolver.current = c.resolver.current ∧
      (c.step r).resolver.xdpi ≠ c.resolver.xdpi ∧ Signal.notice .configuration ∈ c.signals r := by
  intro c r
  have hreachable : Reachable c := (Reachable.initial true []).run _
  have hx : (c.step r).resolver.xdpi ≠ c.resolver.xdpi := by decide +kernel
  have hdevice : (c.step r).resolver.device? = some (portraitDevice "Tablet" 320) := by
    decide +kernel
  have htold := (told_of_screen_change hreachable (by decide +kernel) (by decide +kernel)
    (by rfl)).2 (Or.inl hx)
  exact ⟨by decide +kernel, hx, htold.resolve_right fun h => nomatch h.2 _ hdevice⟩

/-- An empty catalog is taken over: the dots per inch of the device that is gone give way to the
nominal ones, and the listener is not told. -/
theorem silent_screen_change_of_emptied_catalog :
    let c := (initial true []).run [.reloadDevices (deviceProvider [portraitDevice "Phone" 180])]
    let r : Request := .reloadDevices (deviceProvider [])
    Reachable c ∧ c.listening = true ∧ c.depth = 0 ∧ r.endsNormally = true ∧
      (c.step r).resolver.xdpi ≠ c.resolver.xdpi ∧
        Signal.notice .configuration ∉ c.signals r := by
  intro c r
  have hreachable : Reachable c := (Reachable.initial true []).run _
  exact ⟨hreachable, by decide +kernel, by decide +kernel, by rfl, by decide +kernel,
    by decide +kernel⟩

end Controller

/-! ## The theme -/

/-- Does a request take over the resources of a provider? -/
def Request.takesResources : Request → Bool
  | .start _ => true
  | .updateResources _ => true
  | _ => false

namespace Controller

variable {c : Controller} {r : Request}

/-- A request that takes over no resources and raises no change of the theme leaves the theme
alone. -/
theorem view_theme_single (hr : r.isRebuild = false) (ht : r.takesResources = false)
    (hn : .notice .theme ∉ c.raised r) : (c.step r).view .theme = c.view .theme := by
  cases r with
  | start p => cases ht
  | updateResources p => cases ht
  | selectTheme i =>
    have hnone : c.themes.get? i = none := by
      rw [raised] at hn
      cases he : c.themes.get? i with
      | none => rfl
      | some e =>
        rw [he] at hn
        exact absurd (List.mem_singleton_self _) hn
    have hbeside : c.beside (.selectTheme i) = c := by simp only [beside, hnone]
    rw [view_of_alike (alike_after c hr), after_eq, hbeside]
    rfl
  | rebuild body broken => cases hr
  | _ => exact view_step hr (by simp [Request.facets])

theorem theme?_of_not_mem_raisedByThemes {p : Provider}
    (hn : .notice .theme ∉ c.raisedByThemes p) : (c.withThemes p).theme? = c.theme? := by
  rw [raisedByThemes, theme?_updateResources] at hn
  split at hn
  · assumption
  · exact absurd (List.mem_singleton_self _) hn

/-- **A single request that does not raise a change of the theme keeps its name.** -/
theorem theme?_single (hr : r.isRebuild = false) (hn : .notice .theme ∉ c.raised r) :
    (c.step r).theme? = c.theme? := by
  cases ht : r.takesResources with
  | false => exact theme?_eq_of_view (view_theme_single hr ht hn)
  | true =>
    rw [(alike_after c hr).theme?_eq]
    cases r with
    | start p =>
      rw [raised, List.mem_append, not_or] at hn
      exact theme?_of_not_mem_raisedByThemes hn.1
    | updateResources p =>
      rw [raised] at hn
      exact theme?_of_not_mem_raisedByThemes hn
    | _ => cases ht

theorem stepRelation_theme? : StepRelation fun a b => b.theme? = a.theme? where
  alike := Alike.theme?_eq
  trans hab hbc := hbc.trans hab

theorem stepRelation_view (f : Facet) : StepRelation fun a b => b.view f = a.view f where
  alike hab := view_of_alike hab f
  trans hab hbc := hbc.trans hab

theorem isProjectTheme_eq_of_view {a b : Controller} (h : a.view .theme = b.view .theme) :
    a.isProjectTheme = b.isProjectTheme := by
  rw [isProjectTheme, isProjectTheme, themes_eq_of_view h, themeIndex_eq_of_view h]

/-- Without a name no theme is selected, and so none of the project. -/
theorem isProjectTheme_of_theme?_eq_none (h : Reachable c) (ht : c.theme? = none) :
    c.isProjectTheme = false := by
  have hselects : c.themes.IsSelection c.themeIndex := invariant_selectsTheme.of_reachable h
  cases hi : c.themeIndex with
  | none => rw [isProjectTheme, hi, Option.any_none]
  | some i =>
    rw [hi] at hselects
    obtain ⟨e, he, -⟩ := hselects
    rw [theme?_of_themeIndex hi he] at ht
    cases ht

/-- **Changes of the theme are told.** If the name of the selected theme differs after a request, or
after a program in a rebuild that ends normally, the listener has been told. If the theme belongs to
the project and did not before, or the other way round, the listener has been told as well, unless
resources were taken over and the theme in the other block has the same name: it is the name that is
compared. -/
theorem told_of_theme_change (h : Reachable c) (hl : c.listening = true) (hd : c.depth = 0)
    (hr : r.endsNormally = true) :
    ((c.step r).theme? ≠ c.theme? → Signal.notice .theme ∈ c.signals r) ∧
      ((c.step r).isProjectTheme ≠ c.isProjectTheme →
        Signal.notice .theme ∈ c.signals r ∨
          (∃ x ∈ c.performed r, x.2.takesResources = true) ∧
            ∃ name, c.theme? = some name ∧ (c.step r).theme? = some name) := by
  by_cases htold : Signal.notice .theme ∈ c.signals r
  · exact ⟨fun _ => htold, fun _ => Or.inl htold⟩
  · have hn : .notice .theme ∉ c.raised r := mt (mem_signals_iff h hd hl hr).mpr htold
    have htheme : (c.step r).theme? = c.theme? :=
      stepRelation_theme?.of_not_mem_raised (fun _ _ _ => theme?_single) h hn
    refine ⟨fun hdiffers => absurd htheme hdiffers, fun hdiffers => Or.inr ⟨?_, ?_⟩⟩
    · refine Classical.byContradiction fun hnone => hdiffers (isProjectTheme_eq_of_view ?_)
      refine (stepRelation_view .theme).of_not_mem_raised (fun x hx _ hsingle => ?_) h hn
      exact view_theme_single hsingle (Bool.eq_false_iff.mpr fun ht => hnone ⟨x, hx, ht⟩)
    · cases hname : c.theme? with
      | some name => exact ⟨name, rfl, htheme.trans hname⟩
      | none =>
        -- no theme was selected, and none is
        have hbefore := isProjectTheme_of_theme?_eq_none h hname
        have hafter := isProjectTheme_of_theme?_eq_none (h.step r) (htheme.trans hname)
        exact absurd (hafter.trans hbefore.symm) hdiffers

/-- The theme of the project is selected in a rebuild that breaks off within another one. -/
theorem told_of_theme_change_of_inner_break :
    let c := (initial true []).run [.updateResources (themeProvider ["Theme", "Theme.Light"])]
    let r : Request := .rebuild [.rebuild [.selectTheme 3] true] false
    c.theme? = some "Theme" ∧ (c.step r).theme? = some "Mine" ∧
      (c.step r).isProjectTheme ≠ c.isProjectTheme ∧ Signal.notice .theme ∈ c.signals r := by
  intro c r
  have hreachable : Reachable c := (Reachable.initial true []).run _
  have hbefore : c.theme? = some "Theme" := by decide +kernel
  have hafter : (c.step r).theme? = some "Mine" := by decide +kernel
  have howner : (c.step r).isProjectTheme ≠ c.isProjectTheme := by decide +kernel
  have hchanges := told_of_theme_change hreachable (by decide +kernel) (by decide +kernel)
    (r := r) (by rfl)
  refine ⟨hbefore, hafter, howner, (hchanges.2 howner).resolve_right ?_⟩
  rintro ⟨-, name, hname, hname'⟩
  have hsame : some "Theme" = some "Mine" :=
    (hbefore.symm.trans hname).trans (hname'.symm.trans hafter)
  exact absurd hsame (by decide)

/-- A provider of the framework alone with one style. -/
def frameworkStyleProvider (style : ResourceValue) : Provider where
  framework := some ∅
  project := none
  frameworkValues := some (.ofList [(.style, resourceMap [style])])
  projectValues := none
  devices := []

/-- A provider of a project alone with one style. -/
def projectStyleProvider (style : ResourceValue) : Provider where
  framework := none
  project := some ∅
  frameworkValues := none
  projectValues := some (.ofList [(.style, resourceMap [style])])
  devices := []

/-- The only theme of the framework gives way to one of the project with the same name: the theme
belongs to the project now, and the listener is not told. -/
theorem silent_theme_change_of_same_name :
    let c := (initial true []).run
      [.updateResources (frameworkStyleProvider (.style "Theme" none))]
    let r : Request :=
      .updateResources (projectStyleProvider (.style "Theme" (some "@android:Theme")))
    Reachable c ∧ c.listening = true ∧ c.depth = 0 ∧ r.endsNormally = true ∧
      c.isProjectTheme = false ∧ (c.step r).isProjectTheme = true ∧
        Signal.notice .theme ∉ c.signals r := by
  intro c r
  have hreachable : Reachable c := (Reachable.initial true []).run _
  exact ⟨hreachable, by decide +kernel, by decide +kernel, by rfl, by decide +kernel,
    by decide +kernel, by decide +kernel⟩

end Controller

end ConfigBar
