import ConfigBar.Proofs.Controller.Raised
/-!
# What requests raise settles

For every operation of the controller, what it raises becomes what `Settles` says. Outside of
rebuilds this needs a state in which nothing waits (`Quiet`), since operations that take over a
provider open a rebuild of their own.

* `settles_single` — what a single request raises settles, in a rebuild and outside
* `settles_run` — what a program raises in a rebuild settles; nothing but callbacks gets through
-/

namespace ConfigBar.Controller

open Signal (notices callbacks)

/-! ## Single requests -/

/-- The signals that performing a request lets through. -/
def signals (c : Controller) (r : Request) : List Signal := (c.perform r).2.allSignals

/-- The signals that performing a list of requests lets through. -/
def signalsAll (c : Controller) (rs : List Request) : List Signal :=
  Answer.signalsOf (c.performAll rs).2

theorem settles_telling {c d : Controller} (h : d.rebuildState = c.rebuildState) (n : Notice) :
    Settles c [.notice n] (d.telling n).controller (d.telling n).signals := .tell h n

theorem settles_silently {c d : Controller} (h : d.rebuildState = c.rebuildState) :
    Settles c [] d.silently.controller d.silently.signals := .silent h

theorem settles_failing {α : Type} (c : Controller) (e : ControllerError) :
    Settles c [] (c.failing e : Outcome α).controller (c.failing e : Outcome α).signals :=
  .silent (by rfl)

theorem settles_afterVariant {c d : Controller} (h : d.rebuildState = c.rebuildState)
    (result : Except SelectionError (Resolver × Bool)) :
    Settles c (raisedByVariant result) (d.afterVariant result).controller
      (d.afterVariant result).signals := by
  match result with
  | .error _ => exact settles_silently h
  | .ok (resolver, true) => exact settles_telling (d := { d with resolver }) h .configuration
  | .ok (resolver, false) => exact settles_silently (d := { d with resolver }) h

theorem settles_applyDevice (c : Controller) (resolver : Resolver) :
    Settles c (raisedByVariant resolver.applySelected) (applyDevice { c with resolver }).controller
      (applyDevice { c with resolver }).signals :=
  settles_afterVariant (c := c) (d := { c with resolver }) (by rfl) _

theorem settles_reloadDevices (c : Controller) (p : Provider) :
    Settles c (raisedByDevice (c.resolver.reload p.devices)) (c.reloadDevices p).controller
      (c.reloadDevices p).signals := by
  unfold reloadDevices
  match c.resolver.reload p.devices with
  | (resolver, some (.selected _ _)) => exact settles_applyDevice c resolver
  | (_, some .custom) => exact .silent (by rfl)
  | (_, none) => exact .silent (by rfl)

theorem settles_selectDevice (c : Controller) (i : Nat) :
    Settles c (raisedByDevice ((c.resolver.selectDevice i).map id some))
      (c.selectDevice i).controller (c.selectDevice i).signals := by
  unfold selectDevice
  match c.resolver.selectDevice i with
  | (resolver, .selected _ _) => exact settles_applyDevice c resolver
  | (_, .custom) => exact .silent (by rfl)

theorem settles_updateThemes (c : Controller) (p : Provider) :
    Settles c.enter (c.raisedByThemes p) (c.enter.updateThemes p).1 (c.enter.updateThemes p).2 := by
  rw [raisedByThemes, theme?_updateResources, updateThemes_eq]
  show Settles _ (if (c.enter.withThemes p).theme? = c.enter.theme? then _ else _) _ _
  by_cases h : (c.enter.withThemes p).theme? = c.enter.theme?
  · rw [if_pos h, if_pos h]
    exact .silent (by rfl)
  · rw [if_neg h, if_neg h]
    exact Settles.tell (c := c.enter) (d := c.enter.withThemes p) (by rfl) .theme

/-- Taking over themes raises one notice at most. -/
theorem inOrder_raisedByThemes (c : Controller) (p : Provider) :
    (Notice.inOrder (notices (c.raisedByThemes p))).map .notice = c.raisedByThemes p := by
  unfold raisedByThemes
  split <;> rfl

/-- A provider is taken over in a rebuild of its own. -/
theorem settles_updateResources {c : Controller} (hq : c.Quiet) (p : Provider) :
    Settles c (c.raisedByThemes p) (c.updateResources p).1 (c.updateResources p).2 := by
  have hlocales := (settles_updateThemes c p).trans
    (.silent (d := (c.enter.updateThemes p).1.updateLocales p) (by rfl))
  rw [List.append_nil, List.append_nil] at hlocales
  exact settles_close_of_inOrder hq hlocales (inOrder_raisedByThemes c p)

theorem settles_start {c : Controller} (hq : c.Quiet) (p : Provider) :
    Settles c (c.raised (.start p)) (c.start p).controller (c.start p).signals := by
  -- the resources leave the resolver alone, so the devices are reloaded as they would be before
  have hreload := settles_reloadDevices (c.updateResources p).1 p
  rw [resolver_updateResources] at hreload
  rw [raised]
  exact (settles_updateResources hq p).trans hreload

theorem settles_selectLocale (c : Controller) (i : Nat) :
    Settles c (c.raised (.selectLocale i)) (c.selectLocale i).controller
      (c.selectLocale i).signals := by
  rw [raised]
  unfold selectLocale
  cases h : c.locales.get? i with
  | none => exact settles_failing c _
  | some entry =>
    by_cases hd : c.depth = 0
    · have hr : c.isRebuilding = false := isRebuilding_eq_false_iff.mpr hd
      rw [if_pos ⟨rfl, hd⟩]
      simp only [hr, Bool.false_eq_true, if_false]
      exact settles_telling (by rfl) _
    · have hr : c.isRebuilding = true := isRebuilding_iff.mpr hd
      rw [if_neg fun h => hd h.2]
      simp only [hr, if_true]
      exact settles_silently (by rfl)

theorem settles_typeLocale (c : Controller) (text : String) :
    Settles c (c.raised (.typeLocale text)) (c.typeLocale text).controller
      (c.typeLocale text).signals := by
  rw [raised]
  unfold typeLocale
  cases Locale.parse text with
  | error e => exact settles_failing c _
  | ok l => exact settles_telling (by rfl) _

theorem settles_selectTheme (c : Controller) (i : Nat) :
    Settles c (c.raised (.selectTheme i)) (c.selectTheme i).controller
      (c.selectTheme i).signals := by
  rw [raised]
  unfold selectTheme
  cases c.themes.get? i with
  | none => exact settles_failing c _
  | some entry => exact settles_telling (by rfl) _

theorem settles_setClipping (c : Controller) (on : Bool) :
    Settles c (c.raised (.setClipping on)) (c.setClipping on).controller
      (c.setClipping on).signals := by
  rw [raised]
  unfold setClipping
  cases c.clippingSupported with
  | true => exact settles_telling (by rfl) _
  | false => exact settles_silently (by rfl)

theorem settles_requestCreate (c : Controller) :
    Settles c (c.raised .requestCreate) c.requestCreate.controller c.requestCreate.signals := by
  rw [raised]
  unfold requestCreate
  cases c.createEnabled with
  | true => exact settles_telling (by rfl) _
  | false => exact settles_silently (by rfl)

/-- A callback gets through in every state. -/
theorem settles_setToggle (c : Controller) (i : Nat) (on : Bool) :
    Settles c (c.raised (.setToggle i on)) (c.setToggle i on).controller
      (c.setToggle i on).signals := by
  rw [raised]
  unfold setToggle
  cases c.toggles[i]? with
  | none => exact settles_failing c _
  | some t =>
    refine ⟨rfl, rfl, fun n => ?_, ?_⟩
    · simp [notices, Signal.notice?]
    · simp [audible, Signal.notice?]

/-- **What a single request raises gets through at once or waits.** -/
theorem settles_single {c : Controller} (hq : c.Quiet) {r : Request} (hr : r.isRebuild = false) :
    Settles c (c.raised r) (c.step r) (c.signals r) := by
  unfold step signals
  cases r with
  | start p => exact settles_start hq p
  | updateResources p => exact settles_updateResources hq p
  | reloadDevices p => exact settles_reloadDevices c p
  | selectDevice i => exact settles_selectDevice c i
  | selectVariant name => exact settles_afterVariant (by rfl) _
  | selectVariantAt i => exact settles_afterVariant (by rfl) _
  | selectLocale i => exact settles_selectLocale c i
  | typeLocale text => exact settles_typeLocale c text
  | setVersion version => exact settles_telling (by rfl) _
  | selectTheme i => exact settles_selectTheme c i
  | setClipping on => exact settles_setClipping c on
  | setClippingSupport supported => exact settles_silently (by rfl)
  | setCreateEnabled enabled => exact settles_silently (by rfl)
  | requestCreate => exact settles_requestCreate c
  | setEditing config => exact settles_silently (by rfl)
  | setToggle i on => exact settles_setToggle c i on
  | rebuild body broken => cases hr

/-! ## Programs in a rebuild -/

theorem signalsAll_nil (c : Controller) : c.signalsAll [] = [] := by
  simp [signalsAll, performAll, Answer.signalsOf]

theorem signalsAll_cons (c : Controller) (r : Request) (rs : List Request) :
    c.signalsAll (r :: rs) = c.signals r ++ (c.step r).signalsAll rs := by
  simp [signalsAll, signals, step, performAll, Answer.signalsOf]

/-- The signals of a rebuild are those of its requests and those of its end. -/
theorem signals_rebuild (c : Controller) (body : List Request) (broken : Bool) :
    c.signals (.rebuild body broken) =
      c.enter.signalsAll body ++ ((c.enter.run body).close broken).2 := by
  simp [signals, signalsAll, run, perform, Answer.allSignals]

theorem quiet_of_isRebuilding {c : Controller} (h : c.isRebuilding) : c.Quiet := by
  intro hd
  exact absurd hd (isRebuilding_iff.mp h)

theorem settles_list {rs : List Request}
    (h : ∀ r ∈ rs, ∀ c, c.isRebuilding → Settles c (c.raised r) (c.step r) (c.signals r))
    {c : Controller} (hc : c.isRebuilding) :
    Settles c (c.raisedAll rs) (c.run rs) (c.signalsAll rs) := by
  induction rs generalizing c with
  | nil =>
    rw [raisedAll, run_nil, signalsAll_nil]
    exact .silent rfl
  | cons r rs ih =>
    rw [raisedAll, run_cons, signalsAll_cons]
    have hr := h r List.mem_cons_self c hc
    have hopen : (c.step r).isRebuilding := by simpa only [isRebuilding, hr.depth_eq] using hc
    exact hr.trans (ih (fun r' hr' => h r' (List.mem_cons_of_mem _ hr')) hopen)

/-- In a rebuild, what a request raises settles, even if the request is a rebuild that breaks off:
the notices of an inner rebuild wait with the others. -/
theorem settles_step (r : Request) :
    ∀ c, c.isRebuilding → Settles c (c.raised r) (c.step r) (c.signals r) := by
  induction r using Request.induction with
  | single r hr => exact fun c hc => settles_single (quiet_of_isRebuilding hc) hr
  | rebuild body broken ih =>
    intro c hc
    rw [raised, step_rebuild, signals_rebuild]
    exact settles_close_of_isRebuilding hc (settles_list ih (isRebuilding_enter c)) broken

theorem isRebuilding_step {c : Controller} (hc : c.isRebuilding) (r : Request) :
    (c.step r).isRebuilding := by
  simpa only [isRebuilding, (settles_step r c hc).depth_eq] using hc

/-- **What a program raises in a rebuild waits for its end, but for callbacks.** -/
theorem settles_run {c : Controller} (hc : c.isRebuilding) (rs : List Request) :
    Settles c (c.raisedAll rs) (c.run rs) (c.signalsAll rs) :=
  settles_list (fun r _ => settles_step r) hc

end ConfigBar.Controller
