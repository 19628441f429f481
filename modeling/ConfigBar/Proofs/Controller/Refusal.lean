import ConfigBar.Proofs.Controller.Settled
import ConfigBar.Proofs.Controller.Variants
/-!
# Refused requests

A request is refused if it fails, if it asks the host to create a device instead of selecting one,
if the button for creating a device is disabled, or if the layout can only be rendered clipped. A
refused request leaves no trace: the state is as before in every field, and neither the listener nor
a toggle hears of it.

* `Outcome.Untouched` — an outcome that leaves no trace
* `Outcome.Atomic` — an outcome that leaves no trace if it fails
* `atomic_single` — the outcomes of single requests are atomic; those of requests that change the
  resolver before they apply a variant are so since in a coherent state they never fail
-/

namespace ConfigBar

/-! ## Outcomes without a trace -/

namespace Outcome

variable {α : Type} {c : Controller} {o : Outcome α}

/-- The state is as before, and nothing is told. -/
def Untouched (o : Outcome α) (c : Controller) : Prop := o.controller = c ∧ o.signals = []

/-- If the operation fails, it leaves no trace. -/
def Atomic (o : Outcome α) (c : Controller) : Prop := ∀ e, o.result = .error e → o.Untouched c

theorem atomic_of_result_eq_ok {a : α} (h : o.result = .ok a) : o.Atomic c := by
  intro e he
  rw [h] at he
  cases he

theorem Untouched.answer (h : o.Untouched c) (reply : α → Reply) :
    (o.answer reply).1 = c ∧ (o.answer reply).2.allSignals = [] := by
  obtain ⟨hcontroller, hsignals⟩ := h
  refine ⟨hcontroller, ?_⟩
  rw [Outcome.answer, Answer.allSignals]
  exact hsignals

/-- The answer to a request that fails comes from an outcome that fails. -/
theorem Atomic.answer (h : o.Atomic c) {reply : α → Reply} {e : ControllerError}
    (he : (o.answer reply).2.results = [.error e]) :
    (o.answer reply).1 = c ∧ (o.answer reply).2.allSignals = [] := by
  rw [results_answer] at he
  have hresult : o.result = .error e := Resolver.map_eq_error_iff.mp (List.singleton_inj.mp he)
  exact (h e hresult).answer reply

theorem result_eq_ok_of_answer {reply : α → Reply} (hinj : Function.Injective reply) {a : α}
    (h : (o.answer reply).2.results = [.ok (reply a)]) : o.result = .ok a := by
  rw [results_answer] at h
  have hmap : o.result.map reply = .ok (reply a) := List.singleton_inj.mp h
  cases hr : o.result with
  | error e =>
    rw [hr] at hmap
    cases hmap
  | ok b =>
    rw [hr] at hmap
    exact congrArg Except.ok (hinj (Except.ok.inj hmap))

end Outcome

namespace Controller

variable {c : Controller}

/-! ## Failed requests -/

theorem atomic_failing {α : Type} (c : Controller) (e : ControllerError) :
    (c.failing e : Outcome α).Atomic c := fun _ _ => ⟨rfl, rfl⟩

theorem atomic_telling (c d : Controller) (n : Notice) : (d.telling n).Atomic c :=
  Outcome.atomic_of_result_eq_ok (a := ()) rfl

theorem atomic_silently (c d : Controller) : d.silently.Atomic c :=
  Outcome.atomic_of_result_eq_ok (a := ()) rfl

/-- A variant that cannot be applied is the only failure, and it changes nothing. -/
theorem atomic_afterVariant (c : Controller) (result : Except SelectionError (Resolver × Bool)) :
    (c.afterVariant result).Atomic c := by
  match result with
  | .error e => exact atomic_failing c _
  | .ok (resolver, true) => exact atomic_telling c { c with resolver } .configuration
  | .ok (resolver, false) => exact atomic_silently c { c with resolver }

theorem atomic_selectLocale (c : Controller) (i : Nat) : (c.selectLocale i).Atomic c := by
  unfold selectLocale
  split
  · exact atomic_failing c _
  · split
    · exact atomic_silently c c
    · exact atomic_telling c _ .configuration

theorem atomic_typeLocale (c : Controller) (text : String) : (c.typeLocale text).Atomic c := by
  unfold typeLocale
  split
  · exact atomic_failing c _
  · exact atomic_telling c _ .configuration

theorem atomic_selectTheme (c : Controller) (i : Nat) : (c.selectTheme i).Atomic c := by
  unfold selectTheme
  split
  · exact atomic_failing c _
  · exact atomic_telling c _ .theme

theorem atomic_setClipping (c : Controller) (on : Bool) : (c.setClipping on).Atomic c := by
  unfold setClipping
  split
  · exact atomic_telling c _ .clipping
  · exact atomic_silently c c

theorem atomic_requestCreate (c : Controller) : c.requestCreate.Atomic c := by
  unfold requestCreate
  split
  · exact Outcome.atomic_of_result_eq_ok (a := true) rfl
  · exact Outcome.atomic_of_result_eq_ok (a := false) rfl

theorem atomic_setToggle (c : Controller) (i : Nat) (on : Bool) : (c.setToggle i on).Atomic c := by
  unfold setToggle
  split
  · exact atomic_failing c _
  · exact Outcome.atomic_of_result_eq_ok (a := ()) rfl

/-- **A single request that fails leaves no trace.** -/
theorem atomic_single (h : c.resolver.Coherent) {r : Request} (hr : r.isRebuild = false)
    {e : ControllerError} (he : c.results r = [.error e]) : c.step r = c ∧ c.signals r = [] := by
  unfold results at he
  unfold step signals
  cases r with
  | start p => exact (Outcome.atomic_of_result_eq_ok (c.result_start p)).answer he
  | updateResources p => cases he
  | reloadDevices p => exact (Outcome.atomic_of_result_eq_ok (c.result_reloadDevices p)).answer he
  | selectDevice i => exact (Outcome.atomic_of_result_eq_ok (result_selectDevice h i)).answer he
  | selectVariant name => exact (atomic_afterVariant c _).answer he
  | selectVariantAt i => exact (atomic_afterVariant c _).answer he
  | selectLocale i => exact (atomic_selectLocale c i).answer he
  | typeLocale text => exact (atomic_typeLocale c text).answer he
  | setVersion version => exact (atomic_telling c _ _).answer he
  | selectTheme i => exact (atomic_selectTheme c i).answer he
  | setClipping on => exact (atomic_setClipping c on).answer he
  | setClippingSupport supported => exact (atomic_silently c _).answer he
  | setCreateEnabled enabled => exact (atomic_silently c _).answer he
  | requestCreate => exact (atomic_requestCreate c).answer he
  | setEditing config => exact (atomic_silently c _).answer he
  | setToggle i on => exact (atomic_setToggle c i on).answer he
  | rebuild body broken => cases hr

/-! ## Requests that are turned down -/

/-- Only the slot behind the catalog asks the host to create a device. -/
theorem untouched_selectDevice (h : c.resolver.Coherent) {i : Nat}
    (hs : (c.selectDevice i).result = .ok .custom) : (c.selectDevice i).Untouched c := by
  rw [result_selectDevice h] at hs
  unfold selectDevice
  unfold Resolver.selectDevice at hs ⊢
  cases hget : c.resolver.devices[i]? with
  | none => exact ⟨rfl, rfl⟩
  | some d =>
    rw [hget] at hs
    cases hs

theorem untouched_requestCreate (hs : c.requestCreate.result = .ok false) :
    c.requestCreate.Untouched c := by
  unfold requestCreate at hs ⊢
  split
  · next hon =>
    rw [if_pos hon] at hs
    cases hs
  · exact ⟨rfl, rfl⟩

theorem untouched_setClipping (hs : c.clippingSupported = false) (on : Bool) :
    (c.setClipping on).Untouched c := by
  unfold setClipping
  rw [hs]
  exact ⟨rfl, rfl⟩

/-- When a state refuses a request. -/
inductive Refuses (c : Controller) : Request → Prop where
  /-- The request fails. A rebuild has no result but those of the requests in it. -/
  | failed {r : Request} {e : ControllerError} :
    r.isRebuild = false → c.results r = [.error e] → Refuses c r
  /-- The host is asked to create a device. -/
  | custom {i : Nat} :
    c.results (.selectDevice i) = [.ok (.device .custom)] → Refuses c (.selectDevice i)
  /-- The button for creating a device is disabled. -/
  | createDisabled :
    c.results .requestCreate = [.ok (.forwarded false)] → Refuses c .requestCreate
  /-- The layout can only be rendered clipped. -/
  | clippingUnsupported {on : Bool} : c.clippingSupported = false → Refuses c (.setClipping on)

/-- **A refused request leaves no trace.** In a reachable state, in rebuilds and outside, it leaves
every field as it was, the selections, the rebuilds and the notices that wait included, and neither
the listener nor a toggle is called. -/
theorem step_of_refuses (h : Reachable c) {r : Request} (hr : c.Refuses r) :
    c.step r = c ∧ c.signals r = [] := by
  have hcoherent := coherent_of_reachable h
  cases hr with
  | failed hsingle he => exact atomic_single hcoherent hsingle he
  | custom hs =>
    have hresult := Outcome.result_eq_ok_of_answer (fun _ _ heq => Reply.device.inj heq) hs
    exact (untouched_selectDevice hcoherent hresult).answer .device
  | createDisabled hs =>
    have hresult := Outcome.result_eq_ok_of_answer (fun _ _ heq => Reply.forwarded.inj heq) hs
    exact (untouched_requestCreate hresult).answer .forwarded
  | clippingUnsupported hs => exact (untouched_setClipping hs _).answer fun _ => .done

/-- In a rebuild in which notices wait, a variant is asked for that the device does not have. -/
theorem step_of_refuses_of_missing_variant :
    let c := (initial true []).enter.run
      [.reloadDevices (deviceProvider [doubledDevice]), .setVersion (some 8)]
    c.pending.toList = [.configuration] ∧
      c.results (.selectVariant "Landscape") =
        [.error (.selection (.noSuchVariant "Phone" "Landscape"))] ∧
      c.step (.selectVariant "Landscape") = c ∧ c.signals (.selectVariant "Landscape") = [] := by
  intro c
  have he : c.results (.selectVariant "Landscape") =
      [.error (.selection (.noSuchVariant "Phone" "Landscape"))] := by rfl
  have hreachable : Reachable c := (Reachable.enter (.initial true [])).run _
  exact ⟨by decide +kernel, he, step_of_refuses hreachable (.failed rfl he)⟩

end Controller

end ConfigBar
