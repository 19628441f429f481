import ConfigBar.Proofs.Resolver.Parts
/-!
# Reloading the same catalog

A reload goes by the name of the selected device: the first device of that name is selected, or the
first one of all if there is none. The device that is found so is found again, and its first variant
merges into an effective configuration that has it already. Hence a catalog that is taken over twice
is taken over once.

* `reload_eq` — what a reload comes to if the catalog is not empty
* `indexAfterReload_withDevice` — the device that a reload selects is found where it stands
* `step_applySelected_twice` — an application of the selected variant does nothing more
* `reload_run_reload`, `run_reload_twice` — nor does a reload of the catalog, before the application
  of the variant and after it
-/

namespace ConfigBar.Resolver

variable {r : Resolver}

/-! ## The device that is found again -/

/-- The first device that is the same as another one is also the first that is the same as
itself. -/
theorem findIdx?_isSame {devices : List Device} {old d : Device} {i : Nat}
    (h : devices.findIdx? (·.isSame old) = some i) (hd : devices[i]? = some d) :
    devices.findIdx? (·.isSame d) = some i := by
  obtain ⟨hlt, hsame, -⟩ := List.findIdx?_eq_some_iff_getElem.mp h
  have hget : devices[i] = d := Option.some.inj ((List.getElem?_eq_getElem hlt).symm.trans hd)
  -- devices are told apart by their names, and the two names are equal
  have hname : d.name = old.name := by
    rw [← hget]
    exact beq_iff_eq.mp hsame
  have hpred : (fun d' : Device => d'.isSame d) = fun d' => d'.isSame old := by
    funext d'
    simp only [Device.isSame, hname]
  rw [hpred, h]

theorem findIdx?_isSame_zero {devices : List Device} {d : Device} (h : devices[0]? = some d) :
    devices.findIdx? (·.isSame d) = some 0 := by
  cases devices with
  | nil => cases h
  | cons d' ds =>
    cases h
    simp [List.findIdx?_cons, Device.isSame]

theorem device?_withDevice {i : Nat} {d : Device} (h : r.devices[i]? = some d) :
    (r.withDevice i d).device? = some d := h

/-- The device that is selected after a reload is found at its index again. -/
theorem indexAfterReload_withDevice {devices : List Device} {d : Device}
    (hd : devices[r.indexAfterReload devices]? = some d) :
    (({ r with devices } : Resolver).withDevice (r.indexAfterReload devices) d).indexAfterReload
        devices =
      r.indexAfterReload devices := by
  have hfind : devices.findIdx? (·.isSame d) = some (r.indexAfterReload devices) := by
    cases hold : r.device?.bind fun old => devices.findIdx? fun d => d.isSame old with
    | none =>
      have hzero : r.indexAfterReload devices = 0 := by rw [indexAfterReload, hold, Option.getD_none]
      rw [hzero] at hd ⊢
      exact findIdx?_isSame_zero hd
    | some i =>
      have hi : r.indexAfterReload devices = i := by rw [indexAfterReload, hold, Option.getD_some]
      obtain ⟨old, -, hfind⟩ := Option.bind_eq_some_iff.mp hold
      rw [hi] at hd ⊢
      exact findIdx?_isSame hfind hd
  have hdevice := device?_withDevice (r := { r with devices }) hd
  rw [indexAfterReload, hdevice, Option.bind_some, hfind, Option.getD_some]

/-! ## The state after a reload -/

/-- A catalog that is not empty has a device to select. -/
theorem reload_eq_selected {devices : List Device} {d : Device}
    (hd : devices[r.indexAfterReload devices]? = some d) :
    r.reload devices =
      (({ r with devices } : Resolver).withDevice (r.indexAfterReload devices) d,
        some (.selected (r.indexAfterReload devices) d.name)) := by
  have hne : devices.isEmpty = false :=
    List.isEmpty_eq_false_iff.mpr (List.ne_nil_of_mem (List.mem_of_getElem? hd))
  simp only [reload, hne, Bool.false_eq_true, if_false, selectDevice, hd]

theorem reload_eq {devices : List Device} {d : Device}
    (hd : devices[r.indexAfterReload devices]? = some d) :
    (r.reload devices).1 =
      ({ r with devices } : Resolver).withDevice (r.indexAfterReload devices) d :=
  congrArg Prod.fst (reload_eq_selected hd)

theorem exists_getElem?_indexAfterReload (r : Resolver) {devices : List Device}
    (h : devices ≠ []) : ∃ d, devices[r.indexAfterReload devices]? = some d :=
  ⟨_, List.getElem?_eq_getElem (indexAfterReload_lt r h)⟩

/-- A reload does not ask for the effective configuration. -/
theorem reload_withCurrent (r : Resolver) (q : QualifierSet) (devices : List Device) :
    (({ r with current := q } : Resolver).reload devices).1 =
      { (r.reload devices).1 with current := q } := by
  by_cases h : devices = []
  · subst h
    rfl
  · obtain ⟨d, hd⟩ := exists_getElem?_indexAfterReload r h
    rw [reload_eq hd]
    exact reload_eq (r := { r with current := q }) hd

/-- A catalog that is taken over again leaves the devices as they are. -/
theorem reload_reload (r : Resolver) (devices : List Device) :
    ((r.reload devices).1.reload devices).1 = (r.reload devices).1 := by
  by_cases h : devices = []
  · subst h
    rfl
  · obtain ⟨d, hd⟩ := exists_getElem?_indexAfterReload r h
    have hindex := indexAfterReload_withDevice hd
    rw [reload_eq hd, reload_eq (by rw [hindex]; exact hd), hindex]
    rfl

/-! ## The variant of the selected device -/

/-- After a reload the first variant is selected, if there is any. -/
theorem variantIndex_reload (r : Resolver) (devices : List Device) :
    (r.reload devices).1.variantIndex =
      if (r.reload devices).1.variantNames.isEmpty then none else some 0 := by
  by_cases h : devices = []
  · subst h
    rfl
  · obtain ⟨d, hd⟩ := exists_getElem?_indexAfterReload r h
    rw [reload_eq hd]
    rfl

/-- An application of the selected variant leaves the state as it is, or it merges a variant that
the selected device has under the name. -/
theorem step_applySelected_cases (r : Resolver) :
    r.step .applySelected = r ∨
      ∃ name q, r.variant? = some name ∧ r.Merges name q (r.step .applySelected) := by
  unfold step
  cases hp : r.perform .applySelected with
  | error e => exact Or.inl rfl
  | ok p =>
    obtain ⟨next, reply⟩ := p
    cases performs_of_perform hp with
    | idle => exact Or.inl rfl
    | merge hname hm => exact Or.inr ⟨_, _, hname, hm⟩

/-- The application of the selected variant after a reload changes the effective configuration
only. -/
theorem exists_current_applySelected_reload (r : Resolver) (devices : List Device) :
    ∃ q, (r.reload devices).1.step .applySelected = { (r.reload devices).1 with current := q } := by
  obtain hidle | ⟨name, q, hname, -, hnext⟩ := step_applySelected_cases (r.reload devices).1
  · exact ⟨_, hidle⟩
  · have hindex := variantIndex_reload r devices
    revert hname hnext hindex
    generalize (r.reload devices).1 = s
    intro hname hnext hindex
    -- the variant that is applied is the first one, so its name is found at the index 0
    have hne : s.variantNames ≠ [] := List.ne_nil_of_mem (mem_variantNames_of_variant? hname)
    obtain ⟨first, names, hnames⟩ := List.exists_cons_of_ne_nil hne
    rw [hnames] at hindex
    rw [variant?, hindex, hnames] at hname
    cases hname
    have hzero : s.variantNames.findIdx? (· == name) = s.variantIndex := by
      rw [hindex, hnames, List.findIdx?_cons, beq_self_eq_true, if_pos rfl]
      rfl
    exact ⟨merge s.current q, by rw [hnext, hzero]⟩

/-- What a variant has already given it gives again. -/
theorem merge_merge_self (p variant : QualifierSet) :
    merge (merge p variant) variant = merge p variant := by
  refine QualifierSet.ext_get? fun k => ?_
  by_cases hk : k ∈ Kind.userChosen
  · simp only [get?_merge, if_pos hk]
  · simp only [get?_merge, if_neg hk]

/-- The variant that was merged for the selected one is selected under its name. -/
theorem Merges.variant?_eq {next : Resolver} {name : String} {q : QualifierSet}
    (hm : r.Merges name q next) (hname : r.variant? = some name) : next.variant? = some name := by
  have hmem := mem_variantNames_of_variant? hname
  obtain ⟨-, rfl⟩ := hm
  obtain ⟨hnone, -⟩ | ⟨i, n, hi, hget, hfind⟩ := findIdx?_cases (· == name) r.variantNames
  · exact absurd (List.findIdx?_eq_none_iff.mp hnone name hmem) (by simp)
  · have hn : n = name := by simpa using List.find?_some hfind
    show (r.variantNames.findIdx? (· == name)).bind (r.variantNames[·]?) = some name
    rw [hi, Option.bind_some, hget, hn]

theorem Merges.again {next : Resolver} {name : String} {q : QualifierSet}
    (hm : r.Merges name q next) : next.Merges name q next := by
  obtain ⟨hnamed, rfl⟩ := hm
  exact ⟨hnamed, by simp only [merge_merge_self]⟩

/-- The selected variant is applied by its merge. -/
theorem Merges.applySelected_eq {next : Resolver} {name : String} {q : QualifierSet}
    (hm : r.Merges name q next) (hname : r.variant? = some name) :
    r.applySelected = .ok (next, true) := by
  obtain ⟨hnamed, hnext⟩ := hm
  obtain ⟨d, hd, hq⟩ := Option.bind_eq_some_iff.mp hnamed
  rw [applySelected, hname]
  exact applyVariant_eq_ok_true_iff.mpr ⟨d, q, hd, hq, hnext⟩

/-- A variant that is applied twice is applied once. -/
theorem step_applySelected_twice (r : Resolver) :
    (r.step .applySelected).step .applySelected = r.step .applySelected := by
  obtain hidle | ⟨name, q, hname, hm⟩ := step_applySelected_cases r
  · rw [hidle, hidle]
  · have hagain := hm.again.applySelected_eq (hm.variant?_eq hname)
    rw [step_applySelected, hagain, afterApplying]

/-! ## Both together -/

/-- Once a catalog is taken over and the variant is applied, the catalog has nothing new. -/
theorem reload_run_reload (r : Resolver) (devices : List Device) :
    ((r.run [.reload devices, .applySelected]).reload devices).1 =
      r.run [.reload devices, .applySelected] := by
  show (((r.reload devices).1.step .applySelected).reload devices).1 =
    (r.reload devices).1.step .applySelected
  obtain ⟨q, hq⟩ := exists_current_applySelected_reload r devices
  rw [hq, reload_withCurrent, reload_reload]

/-- **A catalog that is taken over twice is taken over once**, with the variant that is applied. -/
theorem run_reload_twice (r : Resolver) (devices : List Device) :
    (r.run [.reload devices, .applySelected]).run [.reload devices, .applySelected] =
      r.run [.reload devices, .applySelected] := by
  rw [run_cons, step_reload, reload_run_reload]
  exact step_applySelected_twice (r.reload devices).1

end ConfigBar.Resolver
