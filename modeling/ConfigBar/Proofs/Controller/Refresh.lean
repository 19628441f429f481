import ConfigBar.Proofs.Controller.Told
import ConfigBar.Proofs.Resolver.Reload
/-!
# Refreshing from an unchanged provider

Three requests take something over from a provider: its themes and locales, its devices, or all of
them. Each selection is found again by a rule of its own: the theme by its index, the device by its
name, the locale by the effective language and region. What these rules find they find again, so a
request that is repeated with the same provider leaves the state as it is.

* `after_after` — what a request takes over a second time is there already
* `mem_raised_again` — what it raises a second time it has raised the first time
* `step_eq_self` — a request that changes nothing, and whose notices wait already, keeps the state
* `step_step`, `updateResources_step` — the whole state after the second time, and that taking over
  the resources again does nothing at all
-/

namespace ConfigBar

theorem Request.isRebuild_of_provider? {r : Request} {p : Provider} (h : r.provider? = some p) :
    r.isRebuild = false := by
  cases r <;> first | rfl | cases h

theorem Request.choosesLocale_of_provider? {r : Request} {p : Provider}
    (h : r.provider? = some p) : r.choosesLocale = false := by
  cases r <;> first | rfl | cases h

namespace Controller

variable {c : Controller} {r : Request} {p : Provider}

/-! ## What is taken over -/

/-- Themes that are taken over again keep the selection. -/
theorem withThemes_withThemes (c : Controller) (p : Provider) :
    (c.withThemes p).withThemes p = c.withThemes p := by
  have hrestore : (c.withThemes p).themes.restore (c.withThemes p).themeIndex =
      (c.withThemes p).themeIndex :=
    ThemeList.restore_of_isSelection (ThemeList.isSelection_restore _ _)
  show ({ c.withThemes p with
    themeIndex := (c.withThemes p).themes.restore (c.withThemes p).themeIndex } : Controller) = _
  rw [hrestore]

/-- The place of the effective locale asks for the resolver alone, and of it for the locale. -/
theorem updateLocales_withResolver {resolver : Resolver}
    (h : resolver.locale = c.resolver.locale) (p : Provider) :
    ({ c with resolver } : Controller).updateLocales p =
      { c.updateLocales p with resolver } := by
  obtain ⟨hlanguage, hregion⟩ := Prod.mk.inj h
  simp only [updateLocales, hlanguage, hregion]

/-- Resources that are taken over again are the same, also if the resolver has gone on with the same
locale. -/
theorem withThemes_updateLocales_twice {resolver : Resolver}
    (h : resolver.locale = c.resolver.locale) (p : Provider) :
    let d : Controller := { (c.withThemes p).updateLocales p with resolver }
    (d.withThemes p).updateLocales p = d := by
  intro d
  calc
    (d.withThemes p).updateLocales p =
        { ((c.withThemes p).withThemes p).updateLocales p with resolver } :=
      updateLocales_withResolver (c := (c.withThemes p).withThemes p) h p
    _ = d := by rw [withThemes_withThemes]

/-- The devices that are taken over again leave the resolver as it is. -/
theorem resolver_after_twice (hp : r.provider? = some p) (c : Controller) :
    (c.after r).resolver.run ((c.after r).resolverOps r) = (c.after r).resolver := by
  cases r with
  | start p | reloadDevices p => exact c.resolver.run_reload_twice p.devices
  | updateResources p => rfl
  | _ => cases hp

/-- What is taken over again leaves the lists beside the resolver as they are. -/
theorem beside_after_twice (hp : r.provider? = some p) (c : Controller) :
    (c.after r).beside r = c.after r := by
  have hlocale := locale_after (c := c) (Request.choosesLocale_of_provider? hp)
  cases r with
  | start p | updateResources p => exact withThemes_updateLocales_twice hlocale p
  | reloadDevices p => rfl
  | _ => cases hp

/-- **What is taken over twice is taken over once.** -/
theorem after_after (hp : r.provider? = some p) (c : Controller) :
    (c.after r).after r = c.after r := by
  rw [after_eq (c.after r), beside_after_twice hp, resolver_after_twice hp]

/-! ## What is raised -/

theorem raisedByThemes_eq_nil_iff :
    c.raisedByThemes p = [] ↔ (c.withThemes p).theme? = c.theme? := by
  rw [raisedByThemes, theme?_updateResources]
  split <;> simp_all

/-- Themes that are taken over again are no change. -/
theorem raisedByThemes_step (hp : r.provider? = some p) (ht : r.takesResources = true)
    (c : Controller) : (c.step r).raisedByThemes p = [] := by
  have halike := alike_after c (Request.isRebuild_of_provider? hp)
  have hview : (c.step r).view .theme = (c.withThemes p).view .theme := by
    rw [view_of_alike halike]
    cases r with
    | start p | updateResources p => cases hp; rfl
    | _ => cases ht
  rw [raisedByThemes_eq_nil_iff, theme?_eq_of_view (view_withThemes_congr hview p),
    withThemes_withThemes, theme?_eq_of_view hview]

theorem eq_of_mem_raisedByVariant {result : Except SelectionError (Resolver × Bool)}
    {signal : Signal} (h : signal ∈ raisedByVariant result) : signal = .notice .configuration := by
  unfold raisedByVariant at h
  split at h
  · exact List.mem_singleton.mp h
  · cases h

/-- What is raised when a variant is applied again was raised the first time. -/
theorem mem_raisedByVariant_again {s : Resolver} {signal : Signal}
    (h : signal ∈ raisedByVariant (s.step .applySelected).applySelected) :
    signal ∈ raisedByVariant s.applySelected := by
  obtain hidle | ⟨name, q, hname, hm⟩ := s.step_applySelected_cases
  · rwa [hidle] at h
  · rw [hm.applySelected_eq hname, eq_of_mem_raisedByVariant h]
    exact List.mem_singleton_self _

theorem mem_raisedByDevice_again (s : Resolver) (devices : List Device) {signal : Signal}
    (h : signal ∈ raisedByDevice ((s.run [.reload devices, .applySelected]).reload devices)) :
    signal ∈ raisedByDevice (s.reload devices) := by
  rw [raisedByDevice_reload, s.reload_run_reload] at h
  rw [raisedByDevice_reload]
  exact mem_raisedByVariant_again h

/-- What is raised when something is taken over again was raised the first time. -/
theorem mem_raised_again (hp : r.provider? = some p) {signal : Signal}
    (h : signal ∈ (c.step r).raised r) : signal ∈ c.raised r := by
  have hresolver := resolver_step (c := c) (Request.isRebuild_of_provider? hp)
  cases r with
  | start p =>
    have hthemes := raisedByThemes_step (r := .start p) rfl rfl c
    rw [raised, hthemes, List.nil_append, hresolver] at h
    rw [raised]
    exact List.mem_append_right _ (mem_raisedByDevice_again _ _ h)
  | updateResources p =>
    have hthemes := raisedByThemes_step (r := .updateResources p) rfl rfl c
    rw [raised, hthemes] at h
    cases h
  | reloadDevices p =>
    rw [raised, hresolver] at h
    rw [raised]
    exact mem_raisedByDevice_again _ _ h
  | _ => cases hp

/-! ## The state -/

/-- A request leaves the state as it is if it changes nothing and every notice that it raises waits
already. -/
theorem step_eq_self (hq : c.Quiet) (hr : r.isRebuild = false) (ha : Alike c (c.after r))
    (hw : c.isRebuilding = true → ∀ n ∈ Signal.notices (c.raised r), n ∈ c.pending) :
    c.step r = c := by
  have hsettles := settles_single hq hr
  have hpending : (c.step r).pending = c.pending := by
    refine SortedSet.ext fun n => ?_
    rw [hsettles.mem_pending]
    exact ⟨fun h => h.elim id fun hraised => hw hraised.1 n hraised.2, Or.inl⟩
  exact ((ha.trans (alike_after c hr)).eq hsettles.depth_eq.symm hpending.symm).symm

theorem Alike.after {a b : Controller} (h : Alike a b) (hr : r.isRebuild = false)
    (hl : r.choosesLocale = false) : Alike (a.after r) (b.after r) := by
  have hstep := (alike_single h hr fun i hi => by subst hi; cases hl).1
  exact ((alike_after a hr).trans hstep).trans (alike_after b hr).symm

/-- A second request changes nothing, if it adds nothing to what the first one does. -/
theorem alike_step_after {r' : Request} (hr : r.isRebuild = false) (hr' : r'.isRebuild = false)
    (hl : r'.choosesLocale = false) (h : (c.after r).after r' = c.after r) :
    Alike (c.step r) ((c.step r).after r') := by
  have hfirst := alike_after c hr
  have hsecond := hfirst.after hr' hl
  rw [h] at hsecond
  exact hfirst.symm.trans hsecond

/-- A request that takes something over from a provider leaves the state as it is the second time. -/
theorem step_step (hq : c.Quiet) (hp : r.provider? = some p) : (c.step r).step r = c.step r := by
  have hr := Request.isRebuild_of_provider? hp
  have hl := Request.choosesLocale_of_provider? hp
  have hfirst := settles_single hq hr
  refine step_eq_self (hfirst.quiet hq) hr (alike_step_after hr hr hl (after_after hp c)) ?_
  -- what is raised in a rebuild was raised the first time, and so it waits
  intro hopen n hn
  have hbefore : c.isRebuilding = true := by rwa [isRebuilding, hfirst.depth_eq] at hopen
  have hraised := mem_raised_again hp (Signal.mem_notices.mp hn)
  exact (hfirst.mem_pending n).mpr (Or.inr ⟨hbefore, Signal.mem_notices.mpr hraised⟩)

/-- Resources that were taken over are there: taking them over does nothing and tells nothing. -/
theorem updateResources_step (hq : c.Quiet) (hp : r.provider? = some p)
    (ht : r.takesResources = true) : (c.step r).updateResources p = (c.step r, []) := by
  have hr := Request.isRebuild_of_provider? hp
  have hraised : (c.step r).raised (.updateResources p) = [] := by
    rw [raised]
    exact raisedByThemes_step hp ht c
  have hquiet := (settles_single hq hr).quiet hq
  have hafter : (c.after r).after (.updateResources p) = c.after r := by
    have hbeside := beside_after_twice hp c
    cases r with
    | start p | updateResources p => cases hp; exact hbeside
    | _ => cases ht
  have hstep : (c.step r).step (.updateResources p) = c.step r := by
    refine step_eq_self hquiet (by rfl) (alike_step_after hr (by rfl) (by rfl) hafter) ?_
    rw [hraised]
    exact fun _ _ hn => absurd hn List.not_mem_nil
  have hsignals := (settles_single hquiet (r := .updateResources p) (by rfl)).signals_eq
  rw [hraised, List.filter_nil, signals, perform, Answer.allSignals] at hsignals
  exact Prod.ext hstep hsignals

/-- A request that takes something over raises no change of the theme the second time. -/
theorem theme_not_mem_raised_again (hp : r.provider? = some p) :
    .notice .theme ∉ (c.step r).raised r := by
  have hdevice (s : Resolver) (devices : List Device) :
      .notice .theme ∉ raisedByDevice (s.reload devices) := by
    rw [raisedByDevice_reload]
    exact fun h => nomatch eq_of_mem_raisedByVariant h
  cases r with
  | start p =>
    rw [raised, raisedByThemes_step rfl rfl, List.nil_append]
    exact hdevice _ _
  | updateResources p =>
    rw [raised, raisedByThemes_step rfl rfl]
    exact List.not_mem_nil
  | reloadDevices p =>
    rw [raised]
    exact hdevice _ _
  | _ => cases hp

/-- **Refreshing from an unchanged provider is idempotent.** A request that takes something over from
a provider leaves the whole state as it is when it is performed a second time, in a rebuild and
outside, and raises no change of the theme. If it takes over resources, that part of it does nothing
at all the second time: it raises nothing, changes nothing and lets nothing through. -/
theorem refresh_again (h : Reachable c) (hp : r.provider? = some p) :
    (c.step r).step r = c.step r ∧
      Signal.notice .theme ∉ (c.step r).raised r ∧ Signal.notice .theme ∉ (c.step r).signals r ∧
        (r.takesResources = true →
          (c.step r).raisedByThemes p = [] ∧ (c.step r).updateResources p = (c.step r, [])) := by
  have hq := quiet_of_reachable h
  have htheme := theme_not_mem_raised_again (c := c) hp
  refine ⟨step_step hq hp, htheme, ?_, fun ht => ⟨raisedByThemes_step hp ht c, ?_⟩⟩
  · intro hsignals
    have hquiet := quiet_of_reachable (h.step r)
    have hraised := mem_raised_of_mem_signals hquiet (Signal.mem_notices.mpr hsignals)
    exact htheme (Signal.mem_notices.mp hraised)
  · exact updateResources_step hq hp ht

/-- A provider of themes in both blocks, of a locale, and of two devices with the same name behind one
without variants. -/
def doubledProvider : Provider where
  framework := some ∅
  project := some (.ofList [("en", .ofList ["US"])])
  frameworkValues := (themeProvider ["Theme", "Theme.Light"]).frameworkValues
  projectValues := (themeProvider []).projectValues
  devices := [emptyDevice, portraitDevice "Phone" 180, doubledDevice]

/-- The second of the two devices is selected, in a rebuild, with the theme of the project. The first
time the first device of the name takes its place; the second time nothing changes. -/
theorem refresh_again_of_doubled_devices :
    let c := ((initial true []).run
      [.start doubledProvider, .selectDevice 2, .selectTheme 3, .selectLocale 1]).enter
    c.resolver.deviceIndex = some 2 ∧
      (c.step (.start doubledProvider)).resolver.deviceIndex = some 1 ∧
        (c.step (.start doubledProvider)).theme? = some "Mine" ∧
          (c.step (.start doubledProvider)).localeIndex = some 1 ∧
            (c.step (.start doubledProvider)).step (.start doubledProvider) =
              c.step (.start doubledProvider) := by
  intro c
  have hreachable : Reachable c := ((Reachable.initial true []).run _).enter
  exact ⟨by decide +kernel, by decide +kernel, by decide +kernel, by decide +kernel,
    (refresh_again hreachable rfl).1⟩

end Controller

end ConfigBar
