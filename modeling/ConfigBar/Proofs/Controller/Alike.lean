import ConfigBar.Proofs.Controller.Reachable
/-!
# States that differ in their rebuilds only

How many rebuilds are open and which notices wait decides when a listener is told something. Two
states that differ in nothing else are `Alike`. Operations keep them alike and give them the same
results; only the selection of a locale asks whether a rebuild is open.

* `alike_tell`, `alike_enter`, `alike_close` — notices and rebuilds touch nothing else
* `alike_updateResources` — what taking over a provider comes to
* `alike_single` — single requests lead alike states to alike states, with the same results
-/

namespace ConfigBar

/-! ## Results -/

mutual

/-- The results of an answer, one for each single request in their order. -/
def Answer.results : Answer → List (Except ControllerError Reply)
  | .single result _ _ => [result]
  | .rebuilt body _ _ => Answer.resultsOf body

/-- The results of a list of answers in their order. -/
def Answer.resultsOf : List Answer → List (Except ControllerError Reply)
  | [] => []
  | a :: as => a.results ++ Answer.resultsOf as

end

theorem Outcome.results_answer {α : Type} (o : Outcome α) (reply : α → Reply) :
    (o.answer reply).2.results = [o.result.map reply] := by
  rw [Outcome.answer, Answer.results]

/-- Outcomes with the same result are answered with the same results. -/
theorem Outcome.results_answer_congr {α : Type} {o o' : Outcome α} (h : o.result = o'.result)
    (reply : α → Reply) : (o.answer reply).2.results = (o'.answer reply).2.results := by
  rw [results_answer, results_answer, h]

theorem Answer.resultsOf_eq_flatten (as : List Answer) :
    Answer.resultsOf as = (as.map Answer.results).flatten := by
  induction as with
  | nil => rfl
  | cons a as ih => rw [Answer.resultsOf, ih, List.map_cons, List.flatten_cons]

namespace Controller

/-- The results of a request. -/
def results (c : Controller) (r : Request) : List (Except ControllerError Reply) :=
  (c.perform r).2.results

/-- The results of each request of a list. -/
def resultsAll (c : Controller) (rs : List Request) : List (List (Except ControllerError Reply)) :=
  (c.performAll rs).2.map Answer.results

theorem resultsAll_nil (c : Controller) : c.resultsAll [] = [] := by
  simp [resultsAll, performAll]

theorem resultsAll_cons (c : Controller) (r : Request) (rs : List Request) :
    c.resultsAll (r :: rs) = c.results r :: (c.step r).resultsAll rs := by
  simp [resultsAll, results, step, performAll]

theorem results_rebuild (c : Controller) (body : List Request) (broken : Bool) :
    c.results (.rebuild body broken) = (c.enter.resultsAll body).flatten := by
  simp [resultsAll, results, perform, Answer.results, Answer.resultsOf_eq_flatten]

/-! ## Alike states -/

/-- Two states agree in everything but the open rebuilds and the notices that wait. -/
def Alike (a b : Controller) : Prop := ∃ depth pending, b = { a with depth, pending }

namespace Alike

variable {a b c : Controller}

theorem refl (a : Controller) : Alike a a := ⟨a.depth, a.pending, rfl⟩

theorem symm (h : Alike a b) : Alike b a := by
  obtain ⟨d, q, rfl⟩ := h
  exact ⟨a.depth, a.pending, rfl⟩

theorem trans (h : Alike a b) (h' : Alike b c) : Alike a c := by
  obtain ⟨d, q, rfl⟩ := h
  obtain ⟨d', q', rfl⟩ := h'
  exact ⟨d', q', rfl⟩

/-- Alike states with the same rebuilds are equal. -/
theorem eq (h : Alike a b) (hd : a.depth = b.depth) (hp : a.pending = b.pending) : a = b := by
  obtain ⟨d, q, rfl⟩ := h
  cases a
  cases hd
  cases hp
  rfl

theorem resolver_eq (h : Alike a b) : b.resolver = a.resolver := by
  obtain ⟨d, q, rfl⟩ := h
  rfl

theorem listening_eq (h : Alike a b) : b.listening = a.listening := by
  obtain ⟨d, q, rfl⟩ := h
  rfl

theorem theme?_eq (h : Alike a b) : b.theme? = a.theme? := by
  obtain ⟨d, q, rfl⟩ := h
  rfl

end Alike

variable {a b : Controller}

theorem alike_tell (c : Controller) (n : Notice) : Alike c (c.tell n).1 := by
  unfold tell
  split
  · exact ⟨_, _, rfl⟩
  · exact .refl c

theorem alike_enter (c : Controller) : Alike c c.enter := ⟨_, _, rfl⟩

theorem alike_close (c : Controller) (broken : Bool) : Alike c (c.close broken).1 := by
  unfold close
  dsimp only
  split
  · exact ⟨_, _, rfl⟩
  · exact ⟨_, _, rfl⟩

/-! ## Resources -/

/-- The themes of a provider, taken over without a word to the listener. -/
def withThemes (c : Controller) (p : Provider) : Controller :=
  let themes := ThemeList.ofStyles p.frameworkStyles p.projectStyles
  { c with themes, themeIndex := themes.restore c.themeIndex }

theorem updateThemes_eq (c : Controller) (p : Provider) :
    c.updateThemes p =
      if (c.withThemes p).theme? = c.theme? then (c.withThemes p, [])
      else (c.withThemes p).tell .theme := rfl

theorem alike_updateThemes (c : Controller) (p : Provider) :
    Alike (c.withThemes p) (c.updateThemes p).1 := by
  rw [updateThemes_eq]
  split
  · exact .refl _
  · exact alike_tell _ _

theorem Alike.updateLocales (h : Alike a b) (p : Provider) :
    Alike (a.updateLocales p) (b.updateLocales p) := by
  obtain ⟨d, q, rfl⟩ := h
  exact ⟨d, q, rfl⟩

/-- Taking over a provider comes to taking over its themes and its locales. -/
theorem alike_updateResources (c : Controller) (p : Provider) :
    Alike ((c.withThemes p).updateLocales p) (c.updateResources p).1 := by
  have henter : Alike (c.withThemes p) (c.enter.withThemes p) := ⟨_, _, rfl⟩
  have hthemes : Alike (c.withThemes p) (c.enter.updateThemes p).1 :=
    henter.trans (alike_updateThemes c.enter p)
  exact (hthemes.updateLocales p).trans (alike_close _ false)

theorem theme?_updateResources (c : Controller) (p : Provider) :
    (c.updateResources p).1.theme? = (c.withThemes p).theme? :=
  (alike_updateResources c p).theme?_eq

theorem resolver_updateResources (c : Controller) (p : Provider) :
    (c.updateResources p).1.resolver = c.resolver :=
  (alike_updateResources c p).resolver_eq

theorem Alike.updateResources (h : Alike a b) (p : Provider) :
    Alike (a.updateResources p).1 (b.updateResources p).1 := by
  refine (alike_updateResources a p).symm.trans (Alike.trans ?_ (alike_updateResources b p))
  refine Alike.updateLocales ?_ p
  obtain ⟨d, q, rfl⟩ := h
  exact ⟨d, q, rfl⟩

/-! ## Outcomes -/

/-- Two outcomes lead to alike states and give the same result. -/
structure SameOutcome {α : Type} (o o' : Outcome α) : Prop where
  alike : Alike o.controller o'.controller
  result_eq : o.result = o'.result

theorem Alike.telling (h : Alike a b) (n : Notice) : SameOutcome (a.telling n) (b.telling n) :=
  ⟨(alike_tell a n).symm.trans (h.trans (alike_tell b n)), rfl⟩

theorem Alike.silently (h : Alike a b) : SameOutcome a.silently b.silently := ⟨h, rfl⟩

theorem Alike.failing {α : Type} (h : Alike a b) (e : ControllerError) :
    SameOutcome (a.failing e : Outcome α) (b.failing e) := ⟨h, rfl⟩

theorem Alike.withResolver (h : Alike a b) (resolver : Resolver) :
    Alike { a with resolver } { b with resolver } := by
  obtain ⟨d, q, rfl⟩ := h
  exact ⟨d, q, rfl⟩

theorem Alike.afterVariant (h : Alike a b) (result : Except SelectionError (Resolver × Bool)) :
    SameOutcome (a.afterVariant result) (b.afterVariant result) := by
  match result with
  | .error e => exact h.failing _
  | .ok (resolver, true) => exact (h.withResolver resolver).telling .configuration
  | .ok (resolver, false) => exact (h.withResolver resolver).silently

theorem Alike.reloadDevices (h : Alike a b) (p : Provider) :
    SameOutcome (a.reloadDevices p) (b.reloadDevices p) := by
  unfold Controller.reloadDevices
  rw [h.resolver_eq]
  match a.resolver.reload p.devices with
  | (resolver, some (.selected _ _)) =>
    exact (h.withResolver resolver).afterVariant resolver.applySelected
  | (resolver, some .custom) => exact (h.withResolver resolver).silently
  | (resolver, none) => exact (h.withResolver resolver).silently

theorem Alike.start (h : Alike a b) (p : Provider) : SameOutcome (a.start p) (b.start p) := by
  have hreload := (h.updateResources p).reloadDevices p
  exact ⟨hreload.alike, hreload.result_eq⟩

theorem Alike.selectDevice (h : Alike a b) (i : Nat) :
    SameOutcome (a.selectDevice i) (b.selectDevice i) := by
  unfold Controller.selectDevice
  rw [h.resolver_eq]
  match a.resolver.selectDevice i with
  | (resolver, .custom) => exact ⟨h.withResolver resolver, rfl⟩
  | (resolver, .selected j name) =>
    have happly := (h.withResolver resolver).afterVariant resolver.applySelected
    refine ⟨happly.alike, ?_⟩
    exact congrArg (Except.map fun _ => DeviceSelection.selected j name) happly.result_eq

theorem Alike.selectVariant (h : Alike a b) (name : String) :
    SameOutcome (a.selectVariant name) (b.selectVariant name) := by
  unfold Controller.selectVariant
  rw [h.resolver_eq]
  exact h.afterVariant _

theorem Alike.selectVariantAt (h : Alike a b) (i : Nat) :
    SameOutcome (a.selectVariantAt i) (b.selectVariantAt i) := by
  unfold Controller.selectVariantAt
  rw [h.resolver_eq]
  exact h.afterVariant _

/-- The selection of a locale is the only operation that asks whether a rebuild is open. -/
theorem Alike.selectLocale (h : Alike a b) (hr : a.isRebuilding = b.isRebuilding) (i : Nat) :
    SameOutcome (a.selectLocale i) (b.selectLocale i) := by
  obtain ⟨d, q, rfl⟩ := h
  unfold Controller.selectLocale
  rw [← hr]
  dsimp only
  split
  · exact Alike.failing ⟨d, q, rfl⟩ _
  · split
    · exact Alike.silently ⟨d, q, rfl⟩
    · exact Alike.telling ⟨d, q, rfl⟩ _

theorem Alike.typeLocale (h : Alike a b) (text : String) :
    SameOutcome (a.typeLocale text) (b.typeLocale text) := by
  obtain ⟨d, q, rfl⟩ := h
  unfold Controller.typeLocale
  split
  · exact Alike.failing ⟨d, q, rfl⟩ _
  · exact Alike.telling ⟨d, q, rfl⟩ _

theorem Alike.setVersion (h : Alike a b) (version : Option UInt32) :
    SameOutcome (a.setVersion version) (b.setVersion version) := by
  unfold Controller.setVersion
  rw [h.resolver_eq]
  exact (h.withResolver _).telling .configuration

theorem Alike.selectTheme (h : Alike a b) (i : Nat) :
    SameOutcome (a.selectTheme i) (b.selectTheme i) := by
  obtain ⟨d, q, rfl⟩ := h
  unfold Controller.selectTheme
  dsimp only
  split
  · exact Alike.failing ⟨d, q, rfl⟩ _
  · exact Alike.telling ⟨d, q, rfl⟩ _

theorem Alike.setClipping (h : Alike a b) (on : Bool) :
    SameOutcome (a.setClipping on) (b.setClipping on) := by
  obtain ⟨d, q, rfl⟩ := h
  unfold Controller.setClipping
  dsimp only
  split
  · exact Alike.telling ⟨d, q, rfl⟩ _
  · exact Alike.silently ⟨d, q, rfl⟩

theorem Alike.setClippingSupport (h : Alike a b) (supported : Bool) :
    SameOutcome (a.setClippingSupport supported) (b.setClippingSupport supported) := by
  obtain ⟨d, q, rfl⟩ := h
  exact Alike.silently ⟨d, q, rfl⟩

theorem Alike.setCreateEnabled (h : Alike a b) (enabled : Bool) :
    SameOutcome (a.setCreateEnabled enabled) (b.setCreateEnabled enabled) := by
  obtain ⟨d, q, rfl⟩ := h
  exact Alike.silently ⟨d, q, rfl⟩

theorem Alike.setEditing (h : Alike a b) (config : QualifierSet) :
    SameOutcome (a.setEditing config) (b.setEditing config) := by
  obtain ⟨d, q, rfl⟩ := h
  exact Alike.silently ⟨d, q, rfl⟩

theorem Alike.requestCreate (h : Alike a b) : SameOutcome a.requestCreate b.requestCreate := by
  have htell := h.telling .create
  obtain ⟨d, q, rfl⟩ := h
  unfold Controller.requestCreate
  dsimp only
  split
  · exact ⟨htell.alike, rfl⟩
  · exact ⟨⟨d, q, rfl⟩, rfl⟩

theorem Alike.setToggle (h : Alike a b) (i : Nat) (on : Bool) :
    SameOutcome (a.setToggle i on) (b.setToggle i on) := by
  obtain ⟨d, q, rfl⟩ := h
  unfold Controller.setToggle
  dsimp only
  split
  · exact Alike.failing ⟨d, q, rfl⟩ _
  · exact ⟨⟨d, q, rfl⟩, rfl⟩

/-! ## Requests and programs -/

theorem SameOutcome.answer {α : Type} {o o' : Outcome α} (h : SameOutcome o o')
    (reply : α → Reply) :
    Alike (o.answer reply).1 (o'.answer reply).1 ∧
      (o.answer reply).2.results = (o'.answer reply).2.results :=
  ⟨h.alike, Outcome.results_answer_congr h.result_eq reply⟩

/-- Single requests lead alike states to alike states and give the same results. -/
theorem alike_single (h : Alike a b) {r : Request} (hr : r.isRebuild = false)
    (hl : ∀ i, r = .selectLocale i → a.isRebuilding = b.isRebuilding) :
    Alike (a.step r) (b.step r) ∧ a.results r = b.results r := by
  unfold step results
  cases r with
  | start p => exact (h.start p).answer _
  | updateResources p => exact ⟨h.updateResources p, rfl⟩
  | reloadDevices p => exact (h.reloadDevices p).answer _
  | selectDevice i => exact (h.selectDevice i).answer _
  | selectVariant name => exact (h.selectVariant name).answer _
  | selectVariantAt i => exact (h.selectVariantAt i).answer _
  | selectLocale i => exact (h.selectLocale (hl i rfl) i).answer _
  | typeLocale text => exact (h.typeLocale text).answer _
  | setVersion version => exact (h.setVersion version).answer _
  | selectTheme i => exact (h.selectTheme i).answer _
  | setClipping on => exact (h.setClipping on).answer _
  | setClippingSupport supported => exact (h.setClippingSupport supported).answer _
  | setCreateEnabled enabled => exact (h.setCreateEnabled enabled).answer _
  | requestCreate => exact h.requestCreate.answer _
  | setEditing config => exact (h.setEditing config).answer _
  | setToggle i on => exact (h.setToggle i on).answer _
  | rebuild body broken => cases hr

end Controller

end ConfigBar
