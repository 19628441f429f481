import ConfigBar.Proofs.Resolver.Reload
/-!
# Devices that are found again

A new catalog may have the selected device at another place, several devices of its name, or none.
Devices are told apart by their names, so a reload selects the first device of the name, and the
first one of all if the name is gone. A name that no catalog drops stays selected, wherever its
devices stand.

* `IsReselection` — the index in a new catalog at which a reload selects
* `HasSelected`, `HasNothingSelected` — what is selected after it
* `deviceName?_step`, `deviceName?_run` — the name of the device along a run
* `reload_exact` — a reload, and the runs in which every catalog lists the name
-/

namespace ConfigBar.Resolver

variable {r : Resolver} {devices : List Device} {d : Device} {i : Nat} {name : String}

/-- The name of the selected device. -/
def deviceName? (r : Resolver) : Option String := r.device?.map Device.name

/-! ## The index of a name -/

/-- The index at which a catalog has the device of a name: that of the first device of the name. If
there is none, or no name is given, it is the first index. -/
def IsReselection (devices : List Device) (name : Option String) (i : Nat) : Prop :=
  (∃ d, devices[i]? = some d ∧ name = some d.name ∧
      ∀ j < i, ∀ d', devices[j]? = some d' → name ≠ some d'.name) ∨
    (i = 0 ∧ ∀ d ∈ devices, name ≠ some d.name)

theorem isReselection_indexAfterReload (r : Resolver) (devices : List Device) :
    IsReselection devices r.deviceName? (r.indexAfterReload devices) := by
  unfold indexAfterReload deviceName?
  cases r.device? with
  | none => exact Or.inr ⟨rfl, fun d _ h => nomatch h⟩
  | some old =>
    rw [Option.bind_some]
    cases hfind : devices.findIdx? fun d => d.isSame old with
    | none =>
      refine Or.inr ⟨rfl, fun d hd hname => ?_⟩
      have hsame := List.findIdx?_eq_none_iff.mp hfind d hd
      exact absurd (Option.some.inj hname).symm (by simpa [Device.isSame] using hsame)
    | some i =>
      obtain ⟨hlt, hsame, hbefore⟩ := List.findIdx?_eq_some_iff_getElem.mp hfind
      have hname : devices[i].name = old.name := beq_iff_eq.mp hsame
      refine Or.inl ⟨devices[i], List.getElem?_eq_getElem hlt, congrArg some hname.symm, ?_⟩
      intro j hj d' hd' hname'
      obtain ⟨hjlt, rfl⟩ := List.getElem?_eq_some_iff.mp hd'
      exact hbefore j hj (beq_iff_eq.mpr (Option.some.inj hname').symm)

/-- A name that a catalog lists is found. -/
theorem IsReselection.name_eq (h : IsReselection devices (some name) i)
    (hname : name ∈ devices.map Device.name) (hd : devices[i]? = some d) : d.name = name := by
  rcases h with ⟨d', hd', hfound, -⟩ | ⟨-, hmissing⟩
  · cases hd.symm.trans hd'
    exact (Option.some.inj hfound).symm
  · obtain ⟨d', hd', rfl⟩ := List.mem_map.mp hname
    exact absurd rfl (hmissing d' hd')

/-! ## What is selected -/

/-- The device at an index of the catalog is selected, and its first variant if it has any. -/
structure HasSelected (r : Resolver) (i : Nat) (d : Device) : Prop where
  deviceIndex_eq : r.deviceIndex = some i
  device?_eq : r.device? = some d
  variantNames_eq : r.variantNames = d.variantNames
  variantIndex_eq : r.variantIndex = if d.variantNames = [] then none else some 0

/-- No device is selected, and no variant. -/
structure HasNothingSelected (r : Resolver) : Prop where
  deviceIndex_eq : r.deviceIndex = none
  device?_eq : r.device? = none
  variantNames_eq : r.variantNames = []
  variantIndex_eq : r.variantIndex = none

theorem hasSelected_withDevice (h : r.devices[i]? = some d) : (r.withDevice i d).HasSelected i d where
  deviceIndex_eq := rfl
  device?_eq := device?_withDevice h
  variantNames_eq := rfl
  variantIndex_eq := by
    show (if d.variantNames.isEmpty then none else some 0) = _
    simp

theorem hasSelected_reload (hd : devices[r.indexAfterReload devices]? = some d) :
    (r.reload devices).1.HasSelected (r.indexAfterReload devices) d := by
  rw [reload_eq hd]
  exact hasSelected_withDevice (r := { r with devices }) hd

theorem devices_reload (r : Resolver) (devices : List Device) :
    (r.reload devices).1.devices = devices := by
  by_cases h : devices = []
  · subst h
    rfl
  · obtain ⟨d, hd⟩ := exists_getElem?_indexAfterReload r h
    rw [reload_eq hd]
    rfl

/-! ## Names along a run -/

/-- Does an operation keep the device of a name selected? A new catalog has to list the name; the
selection of a device may be that of another one. -/
def Op.Keeps (name : String) : Op → Prop
  | .selectDevice _ => False
  | .reload devices => name ∈ devices.map Device.name
  | _ => True

theorem deviceName?_reload (h : r.deviceName? = some name)
    (hname : name ∈ devices.map Device.name) : (r.reload devices).1.deviceName? = some name := by
  have hne : devices ≠ [] := by
    rintro rfl
    cases hname
  obtain ⟨d, hd⟩ := exists_getElem?_indexAfterReload r hne
  have hfound := isReselection_indexAfterReload r devices
  rw [h] at hfound
  rw [deviceName?, (hasSelected_reload hd).device?_eq, Option.map_some, hfound.name_eq hname hd]

theorem deviceName?_step (h : r.deviceName? = some name) {op : Op} (hop : op.Keeps name) :
    (r.step op).deviceName? = some name := by
  have hothers : op.selectsDevice = false → (r.step op).deviceName? = some name := by
    intro hselects
    rw [deviceName?, (r.device_step hselects).2]
    exact h
  cases op with
  | selectDevice i => cases hop
  | reload devices => exact deviceName?_reload h hop
  | _ => exact hothers rfl

/-- A name that every catalog lists stays selected. -/
theorem deviceName?_run (h : r.deviceName? = some name) {ops : List Op}
    (hops : ∀ op ∈ ops, op.Keeps name) : (r.run ops).deviceName? = some name := by
  induction ops generalizing r with
  | nil => exact h
  | cons op ops ih =>
    obtain ⟨hop, hops⟩ := List.forall_mem_cons.mp hops
    exact ih (deviceName?_step h hop) hops

/-- **A reload selects the device of the same name**, the first one in the new catalog, or the first
device of all if there is none of the name. It comes with its first variant; the effective
configuration is not touched. So the name of the selected device stays the same as long as every
catalog lists it and no device is selected by hand. -/
theorem reload_exact (r : Resolver) (devices : List Device) :
    (r.reload devices).1.devices = devices ∧
    (r.reload devices).1.current = r.current ∧
    (devices = [] → (r.reload devices).2 = none ∧ (r.reload devices).1.HasNothingSelected) ∧
    (devices ≠ [] → ∃ i d, devices[i]? = some d ∧ IsReselection devices r.deviceName? i ∧
      (r.reload devices).2 = some (.selected i d.name) ∧ (r.reload devices).1.HasSelected i d) ∧
    ∀ name ops, r.deviceName? = some name → (∀ op ∈ ops, op.Keeps name) →
      (r.run ops).deviceName? = some name := by
  refine ⟨devices_reload r devices, current_reload r devices, ?_, fun hne => ?_,
    fun name ops hname hops => deviceName?_run hname hops⟩
  · rintro rfl
    exact ⟨rfl, rfl, rfl, rfl, rfl⟩
  · obtain ⟨d, hd⟩ := exists_getElem?_indexAfterReload r hne
    exact ⟨r.indexAfterReload devices, d, hd, isReselection_indexAfterReload r devices,
      congrArg Prod.snd (reload_eq_selected hd), hasSelected_reload hd⟩

/-- The second device is selected; its name is found behind an inserted device, in front of another
device of the name, and again after a variant and a locale. -/
theorem reload_exact_of_inserted_device :
    let device (name : String) (variants : List Variant) : Device := ⟨name, variants, none, none⟩
    let phone := device "Phone" [⟨"Portrait", ∅⟩]
    let tablet := device "Tablet" [⟨"Portrait", ∅⟩, ⟨"Landscape", ∅⟩]
    let r := (ofDevices [phone, tablet]).run [.selectDevice 1, .applySelected]
    let moved := [device "Custom" [], tablet, device "Tablet" [], phone]
    (r.reload moved).1.HasSelected 1 tablet ∧
      (r.run [.reload moved, .applyVariantAt 1, .applyLocale none none,
        .reload [device "Tablet" []]]).deviceName? = some "Tablet" := by
  intro device phone tablet r moved
  obtain ⟨-, -, -, hselected, hrun⟩ := reload_exact r moved
  refine ⟨?_, hrun "Tablet" _ rfl ?_⟩
  · obtain ⟨i, d, hd, -, hreply, hselected⟩ := hselected (List.cons_ne_nil _ _)
    have hanswer : (r.reload moved).2 = some (.selected 1 "Tablet") := rfl
    obtain ⟨rfl, -⟩ := DeviceSelection.selected.inj (Option.some.inj (hreply.symm.trans hanswer))
    cases hd
    exact hselected
  · simp [Op.Keeps, moved, device, tablet]

end ConfigBar.Resolver
