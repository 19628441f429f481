import ConfigBar.Proofs.Controller.Selections
/-!
# The selected device and its variant

A request that selects a device, or takes over a catalog, applies a variant right away. In between
the resolver shows a variant that is not in effect yet; after the request the two agree again, since
the variants of the resolver are those of the selected device (`Resolver.Coherent`).

* `coherent_of_reachable` — the resolver of a controller keeps its variants in step
* `result_start`, `result_reloadDevices`, `result_selectDevice` — the requests that apply a variant
  on their way never fail
* `resolverOps_cases` — a request that selects a device applies its variant last
* `invariant_showsVariant` — the variant that is shown is the one in effect
-/

namespace ConfigBar.Controller

/-! ## Requests that do not fail -/

theorem invariant_coherent : Invariant fun c => c.resolver.Coherent :=
  invariant_of_after (by rintro a _ ⟨d, q, rfl⟩ h; exact h)
    (fun _ _ => Resolver.coherent_ofDevices []) fun c r h => h.run (c.resolverOps r)

theorem coherent_of_reachable {c : Controller} (h : Reachable c) : c.resolver.Coherent :=
  invariant_coherent.of_reachable h

theorem result_applyDevice {c : Controller} (h : c.resolver.Coherent) :
    c.applyDevice.result = .ok () := by
  obtain ⟨⟨next, changed⟩, happly⟩ := h.applySelected_eq_ok
  unfold applyDevice
  rw [happly]
  cases changed <;> rfl

/-- Whatever was selected before, the variant after a reload can be applied. -/
theorem result_reloadDevices (c : Controller) (p : Provider) :
    (c.reloadDevices p).result = .ok () := by
  have hcoherent := c.resolver.coherent_reload p.devices
  unfold reloadDevices
  revert hcoherent
  match c.resolver.reload p.devices with
  | (resolver, some (.selected _ _)) =>
    intro hcoherent
    exact result_applyDevice (c := { c with resolver }) hcoherent
  | (_, some .custom) => exact fun _ => rfl
  | (_, none) => exact fun _ => rfl

theorem result_start (c : Controller) (p : Provider) : (c.start p).result = .ok () :=
  result_reloadDevices (c.updateResources p).1 p

/-- The selection of a device answers what the resolver answers. -/
theorem result_selectDevice {c : Controller} (h : c.resolver.Coherent) (i : Nat) :
    (c.selectDevice i).result = .ok (c.resolver.selectDevice i).2 := by
  have hcoherent := Resolver.coherent_selectDevice h i
  unfold selectDevice
  revert hcoherent
  match c.resolver.selectDevice i with
  | (_, .custom) => exact fun _ => rfl
  | (resolver, .selected j name) =>
    intro hcoherent
    have hok := result_applyDevice (c := { c with resolver }) hcoherent
    show (applyDevice { c with resolver }).result.map _ = _
    rw [hok]
    rfl

/-- **The variants are those of the selected device, and what follows from it.** In every run of a
resolver there are no variants without a device; else the device is one of the catalog, the variants
are its own in order, and one of them is selected as long as there is one. So the selected variant
can always be applied, a variant is missed by an index outside of the list or by a name that the
device does not have, and a controller always starts, reloads its devices and selects one. -/
theorem variants_of_device :
    (∀ (devices : List Device) (ops : List Resolver.Op),
      let r := (Resolver.ofDevices devices).run ops
      (r.deviceIndex = none → r.variantNames = [] ∧ r.variantIndex = none) ∧
        (∀ i, r.deviceIndex = some i →
          ∃ d, r.devices[i]? = some d ∧ r.variantNames = d.variantNames ∧
            (r.variantIndex.isSome ↔ r.variantNames ≠ []) ∧
            ∀ j, r.variantIndex = some j → j < r.variantNames.length) ∧
        (∃ p, r.applySelected = .ok p) ∧
        (∀ i e, r.applyVariantAt i = .error e ↔
          r.variantNames.length ≤ i ∧ e = .outOfRange "config" i r.variantNames.length) ∧
        ∀ op device name, r.perform op = .error (.noSuchVariant device name) ↔
          op = .applyVariant name ∧
            ∃ d, r.device? = some d ∧ d.name = device ∧ name ∉ d.variantNames) ∧
      ∀ c, Reachable c →
        (∀ p, (c.start p).result = .ok ()) ∧
          (∀ p, (c.reloadDevices p).result = .ok ()) ∧
          ∀ i, ∃ selection, (c.selectDevice i).result = .ok selection := by
  refine ⟨fun devices ops => ?_, fun c hc => ?_⟩
  · intro r
    have h : r.Coherent := Resolver.coherent_run devices ops
    refine ⟨fun hi => ?_, fun i hi => ?_, h.applySelected_eq_ok,
      fun i e => h.applyVariantAt_eq_error_iff, fun op device name => h.perform_eq_noSuchVariant_iff⟩
    · exact ⟨h.unselected hi, h.variantIndex_eq_none (h.unselected hi)⟩
    · obtain ⟨d, hget, hnames⟩ := h.selected i hi
      exact ⟨d, hget, hnames, h.isSome_variantIndex, h.variantIndex_lt⟩
  · have h := coherent_of_reachable hc
    exact ⟨c.result_start, c.result_reloadDevices, fun i => ⟨_, result_selectDevice h i⟩⟩

/-- A set with an orientation only. -/
def oriented (o : Orientation) : QualifierSet := { (∅ : QualifierSet) with orientation := some o }

/-- A device with two variants of one name, and one without variants. -/
def doubledDevice : Device :=
  ⟨"Phone", [⟨"Screen", oriented .portrait⟩, ⟨"Screen", oriented .landscape⟩], none, none⟩

def emptyDevice : Device := ⟨"Board", [], none, none⟩

/-- A catalog in which the devices have changed places is taken over: the device is found again, and
its first variant is selected. -/
theorem variants_of_device_of_moved_device :
    let r := (Resolver.ofDevices [doubledDevice, emptyDevice]).run
      [.selectDevice 0, .applyVariantAt 1, .reload [emptyDevice, doubledDevice]]
    r.deviceIndex = some 1 ∧ r.variantIndex = some 0 ∧
      (∃ d, r.devices[1]? = some d ∧ r.variantNames = d.variantNames ∧
        (r.variantIndex.isSome ↔ r.variantNames ≠ []) ∧
        ∀ j, r.variantIndex = some j → j < r.variantNames.length) ∧
      ∃ selection, ((initial true []).selectDevice 0).result = .ok selection := by
  intro r
  have hi : r.deviceIndex = some 1 := by decide +kernel
  obtain ⟨hrun, hcontroller⟩ := variants_of_device
  exact ⟨hi, by decide +kernel, (hrun _ _).2.1 1 hi, (hcontroller _ (.initial true [])).2.2 0⟩

/-! ## The variant in effect -/

/-- A request that selects a device in the resolver applies its variant last. -/
theorem resolverOps_cases (c : Controller) (r : Request) :
    (∃ op, c.resolverOps r = [op, .applySelected]) ∨
      ∀ op ∈ c.resolverOps r, op.selectsDevice = false := by
  cases r with
  | start p => exact Or.inl ⟨_, rfl⟩
  | reloadDevices p => exact Or.inl ⟨_, rfl⟩
  | selectDevice i =>
    simp only [resolverOps]
    by_cases hi : i < c.resolver.devices.length
    · rw [if_pos hi]
      exact Or.inl ⟨_, rfl⟩
    · rw [if_neg hi]
      exact Or.inr fun op hop => absurd hop List.not_mem_nil
  | _ => exact Or.inr fun op hop => by cases operates_of_mem hop <;> rfl

theorem showsVariant_after {c : Controller} (h : c.resolver.Coherent)
    (hs : c.resolver.ShowsVariant) (r : Request) : (c.after r).resolver.ShowsVariant := by
  show (c.resolver.run (c.resolverOps r)).ShowsVariant
  rcases c.resolverOps_cases r with ⟨op, hops⟩ | hops
  · rw [hops]
    exact (Resolver.coherent_step h op).showsVariant_applySelected
  · exact Resolver.showsVariant_run h hs hops

theorem invariant_showsVariant :
    Invariant fun c => c.resolver.Coherent ∧ c.resolver.ShowsVariant :=
  invariant_of_after (by rintro a _ ⟨d, q, rfl⟩ h; exact h)
    (fun _ _ => ⟨Resolver.coherent_ofDevices [], fun _ h => nomatch h⟩)
    fun c r h => ⟨h.1.run (c.resolverOps r), showsVariant_after h.1 h.2 r⟩

/-- **The variant that is shown is the one in effect.** In every reachable state in which the name of
a variant is shown as selected, the effective configuration holds for the kinds that come from the
device what the selected device has under that name, and nothing else. -/
theorem current_of_variant {c : Controller} (h : Reachable c) {name : String}
    (hv : c.resolver.variant? = some name) :
    ∃ d q, c.resolver.device? = some d ∧ d.variant? name = some q ∧
      ∀ k, k ∉ Kind.userChosen → c.resolver.current.get? k = q.get? k :=
  (invariant_showsVariant.of_reachable h).2 name hv

/-- A provider of devices alone. -/
def deviceProvider (devices : List Device) : Provider := ⟨none, none, none, none, devices⟩

/-- The second variant of the doubled name is chosen, which applies the first one. Then a catalog
comes in which the device has only a variant with a keyboard: the orientation is gone. -/
theorem current_of_variant_of_changed_device :
    let screen : QualifierSet := { (∅ : QualifierSet) with keyboard := some .exposed }
    let c := (initial true []).run
      [.reloadDevices (deviceProvider [emptyDevice, doubledDevice]), .selectDevice 1,
        .selectVariantAt 1, .setVersion (some 8),
        .rebuild [.reloadDevices (deviceProvider [⟨"Phone", [⟨"Open", screen⟩], none, none⟩])] true]
    c.resolver.variant? = some "Open" ∧ c.resolver.current.version = some 8 ∧
      ∃ d q, c.resolver.device? = some d ∧ d.variant? "Open" = some q ∧
        ∀ k, k ∉ Kind.userChosen → c.resolver.current.get? k = q.get? k := by
  intro screen c
  have hv : c.resolver.variant? = some "Open" := by decide +kernel
  have hreachable : Reachable c := (Reachable.initial true []).run _
  exact ⟨hv, by decide +kernel, current_of_variant hreachable hv⟩

end ConfigBar.Controller
