import ConfigBar.Proofs.Resolver.Merge
/-!
# The variants of the selected device

The names of the variants that are offered stand beside the catalog, and the selected variant is an
index into them. Every operation keeps the two in step with the selected device (`Coherent`),
whatever catalogs come and whatever fails on the way.

* `coherent_run` — from a fresh resolver on, the variants are those of the selected device
* `Coherent.applySelected_eq_ok`, `Coherent.applyVariantAt_eq_error_iff`,
  `Coherent.perform_eq_noSuchVariant_iff` — which operations fail then, and how
* `Coherent.showsVariant_applySelected` — the variant that is shown as selected is the one in
  effect, once the variant of a newly selected device has been applied
-/

namespace ConfigBar

/-! ## Look-ups by name -/

/-- The first match and its index. -/
theorem findIdx?_cases {α : Type} (p : α → Bool) (xs : List α) :
    (xs.findIdx? p = none ∧ xs.find? p = none) ∨
      ∃ i a, xs.findIdx? p = some i ∧ xs[i]? = some a ∧ xs.find? p = some a := by
  have hfind := @List.find?_eq_bind_findIdx?_getElem? α xs p
  cases hi : xs.findIdx? p with
  | none => exact Or.inl ⟨rfl, by rw [hfind, hi, Option.bind_none]⟩
  | some i =>
    obtain ⟨hlt, -, -⟩ := List.findIdx?_eq_some_iff_getElem.mp hi
    have hget : xs[i]? = some xs[i] := List.getElem?_eq_getElem hlt
    exact Or.inr ⟨i, xs[i], rfl, hget, by rw [hfind, hi, Option.bind_some, hget]⟩

/-- The first entry with a name, looked up in the list or in that of the names. -/
theorem findIdx?_map_cases {α : Type} (name : α → String) (n : String) (xs : List α) :
    (n ∉ xs.map name ∧ (xs.map name).findIdx? (· == n) = none ∧
        xs.find? (fun a => name a == n) = none) ∨
      ∃ i a, n ∈ xs.map name ∧ (xs.map name).findIdx? (· == n) = some i ∧ xs[i]? = some a ∧
        xs.find? (fun a => name a == n) = some a := by
  have hmap : (xs.map name).findIdx? (· == n) = xs.findIdx? fun a => name a == n :=
    List.findIdx?_map
  rw [hmap]
  obtain ⟨hi, hfind⟩ | ⟨i, a, hi, hget, hfind⟩ := findIdx?_cases (fun a => name a == n) xs
  · exact Or.inl ⟨by simpa using hfind, hi, hfind⟩
  · have hname : name a = n := by simpa using List.find?_some hfind
    have hmem : n ∈ xs.map name := hname ▸ List.mem_map_of_mem (List.mem_of_find?_eq_some hfind)
    exact Or.inr ⟨i, a, hmem, hi, hget, hfind⟩

/-- The names of the variants of a device give, by the index of a name, the variant of the name. -/
theorem Device.exists_index_of_find? {d : Device} {name : String} {v : Variant}
    (h : d.variants.find? (fun v => v.name == name) = some v) :
    ∃ i, d.variantNames.findIdx? (· == name) = some i ∧ d.variantNames[i]? = some v.name := by
  obtain ⟨-, -, hnone⟩ | ⟨i, w, -, hi, hget, hfind⟩ :=
    findIdx?_map_cases Variant.name name d.variants
  · rw [h] at hnone
    cases hnone
  · rw [h] at hfind
    cases hfind
    exact ⟨i, hi, by rw [Device.variantNames, List.getElem?_map, hget, Option.map_some]⟩

/-- A device has a variant of a name exactly if the name is among those of its variants. -/
theorem Device.variant?_cases (d : Device) (name : String) :
    (name ∉ d.variantNames ∧ d.variant? name = none) ∨
      ∃ q, name ∈ d.variantNames ∧ d.variant? name = some q := by
  unfold Device.variant? Device.variantNames
  obtain ⟨hmem, -, hfind⟩ | ⟨-, v, hmem, -, -, hfind⟩ :=
    findIdx?_map_cases Variant.name name d.variants
  · exact Or.inl ⟨hmem, by rw [hfind, Option.map_none]⟩
  · exact Or.inr ⟨v.qualifiers, hmem, by rw [hfind, Option.map_some]⟩

namespace Resolver

variable {r next : Resolver}

/-! ## Variants in step with the device -/

/-- The variants are those of the selected device, and one of them is selected if there is any. -/
structure Coherent (r : Resolver) : Prop where
  /-- Without a device no variants are offered. -/
  unselected : r.deviceIndex = none → r.variantNames = []
  /-- The selected device is one of the catalog, and its variants are offered. -/
  selected : ∀ i, r.deviceIndex = some i →
    ∃ d, r.devices[i]? = some d ∧ r.variantNames = d.variantNames
  isSome_variantIndex : r.variantIndex.isSome ↔ r.variantNames ≠ []
  variantIndex_lt : ∀ i, r.variantIndex = some i → i < r.variantNames.length

theorem Coherent.variantIndex_eq_none (h : r.Coherent) (hn : r.variantNames = []) :
    r.variantIndex = none := by
  cases hi : r.variantIndex with
  | none => rfl
  | some i => exact absurd hn (h.isSome_variantIndex.mp (by rw [hi]; rfl))

theorem Coherent.variantNames_eq (h : r.Coherent) {d : Device} (hd : r.device? = some d) :
    r.variantNames = d.variantNames := by
  obtain ⟨i, hi, hget⟩ := Option.bind_eq_some_iff.mp hd
  obtain ⟨d', hget', hnames⟩ := h.selected i hi
  rw [hget] at hget'
  cases hget'
  exact hnames

/-- An offered name is that of a variant of the selected device. -/
theorem Coherent.exists_named? (h : r.Coherent) {name : String} (hm : name ∈ r.variantNames) :
    ∃ d q, r.device? = some d ∧ d.variant? name = some q := by
  cases hi : r.deviceIndex with
  | none =>
    rw [h.unselected hi] at hm
    cases hm
  | some i =>
    obtain ⟨d, hget, hnames⟩ := h.selected i hi
    have hd : r.device? = some d := by rw [device?, hi, Option.bind_some, hget]
    rw [hnames] at hm
    rcases d.variant?_cases name with ⟨hnot, -⟩ | ⟨q, -, hq⟩
    · exact absurd hm hnot
    · exact ⟨d, q, hd, hq⟩

theorem mem_variantNames_of_variant? {name : String} (h : r.variant? = some name) :
    name ∈ r.variantNames := by
  obtain ⟨i, -, hget⟩ := Option.bind_eq_some_iff.mp h
  exact List.mem_of_getElem? hget

/-! ## One operation -/

theorem coherent_ofDevices (devices : List Device) : (ofDevices devices).Coherent where
  unselected _ := rfl
  selected _ hi := nomatch hi
  isSome_variantIndex := by simp [ofDevices]
  variantIndex_lt _ hi := nomatch hi

/-- A device of the catalog comes with its variants, and the first one of them. -/
theorem coherent_withDevice {i : Nat} {d : Device} (h : r.devices[i]? = some d) :
    (r.withDevice i d).Coherent where
  unselected hi := nomatch hi
  selected j hj := by
    cases hj
    exact ⟨d, h, rfl⟩
  isSome_variantIndex := by
    show (if d.variantNames.isEmpty then none else some 0).isSome ↔ d.variantNames ≠ []
    cases d.variantNames <;> simp
  variantIndex_lt j hj := by
    change (if d.variantNames.isEmpty then none else some 0) = some j at hj
    show j < d.variantNames.length
    cases hnames : d.variantNames with
    | nil => simp [hnames] at hj
    | cons name names =>
      have hj0 : 0 = j := by simpa [hnames] using hj
      subst hj0
      exact Nat.succ_pos _

theorem coherent_selectDevice (h : r.Coherent) (i : Nat) : (r.selectDevice i).1.Coherent := by
  unfold selectDevice
  split
  · exact h
  · next d hget => exact coherent_withDevice hget

/-- A catalog that is not empty has a device at the index that is selected after a reload. -/
theorem indexAfterReload_lt (r : Resolver) {devices : List Device} (h : devices ≠ []) :
    r.indexAfterReload devices < devices.length := by
  have hpos : 0 < devices.length := List.length_pos_iff.mpr h
  unfold indexAfterReload
  cases hi : r.device?.bind fun old => devices.findIdx? fun d => d.isSame old with
  | none => exact hpos
  | some i =>
    obtain ⟨old, -, hfind⟩ := Option.bind_eq_some_iff.mp hi
    exact (List.findIdx?_eq_some_iff_findIdx_eq.mp hfind).1

/-- After a reload either a device is selected, or the catalog is empty and nothing is. -/
theorem reload_cases (r : Resolver) (devices : List Device) :
    (∃ i name, (r.reload devices).2 = some (.selected i name)) ∨
      ((r.reload devices).2 = none ∧ (r.reload devices).1.variantIndex = none) := by
  unfold reload
  by_cases h : devices = []
  · subst h
    exact Or.inr ⟨rfl, rfl⟩
  · have hi := indexAfterReload_lt r h
    refine Or.inl ⟨r.indexAfterReload devices, devices[r.indexAfterReload devices].name, ?_⟩
    rw [if_neg (by simpa using h)]
    simp [selectDevice, hi]

/-- Without a selected variant there is nothing to apply. -/
theorem applySelected_of_variantIndex {r : Resolver} (h : r.variantIndex = none) :
    r.applySelected = .ok (r, false) := by
  simp [applySelected, variant?, h]

/-- A new catalog leaves nothing of what was selected in the old one. -/
theorem coherent_reload (r : Resolver) (devices : List Device) : (r.reload devices).1.Coherent := by
  unfold reload
  by_cases h : devices = []
  · subst h
    exact ⟨fun _ => rfl, fun _ hi => (nomatch hi), by simp, fun _ hi => (nomatch hi)⟩
  · rw [if_neg (by simpa using h)]
    have hget := List.getElem?_eq_getElem (indexAfterReload_lt r h)
    simp only [selectDevice, hget]
    exact coherent_withDevice (r := { r with devices }) hget

/-- The first variant of the merged name is selected. -/
theorem Merges.variantIndex_eq {name : String} {q : QualifierSet} (h : r.Merges name q next)
    (hr : r.Coherent) :
    ∃ i, next.variantIndex = some i ∧ next.variantNames[i]? = some name := by
  obtain ⟨hnamed, rfl⟩ := h
  obtain ⟨d, hd, hq⟩ := Option.bind_eq_some_iff.mp hnamed
  obtain ⟨v, hfind, -⟩ := Option.map_eq_some_iff.mp hq
  have hname : v.name = name := by simpa using List.find?_some hfind
  show ∃ i, r.variantNames.findIdx? (· == name) = some i ∧ r.variantNames[i]? = some name
  rw [hr.variantNames_eq hd, ← hname]
  exact Device.exists_index_of_find? (hname ▸ hfind)

theorem coherent_of_merges {name : String} {q : QualifierSet} (h : r.Coherent)
    (hm : r.Merges name q next) : next.Coherent := by
  obtain ⟨i, hi, hget⟩ := hm.variantIndex_eq h
  have hlt : i < next.variantNames.length := (List.getElem?_eq_some_iff.mp hget).1
  obtain ⟨-, rfl⟩ := hm
  refine ⟨h.unselected, h.selected, ?_, ?_⟩
  · have hne : r.variantNames ≠ [] := List.ne_nil_of_mem (List.mem_of_getElem? hget)
    rw [hi]
    exact ⟨fun _ => hne, fun _ => rfl⟩
  · intro j hj
    rw [hi] at hj
    cases hj
    exact hlt

/-- Every operation keeps the variants in step with the device. -/
theorem coherent_step (h : r.Coherent) (op : Op) : (r.step op).Coherent := by
  unfold step
  cases hp : r.perform op with
  | error e => exact h
  | ok p =>
    obtain ⟨next, reply⟩ := p
    cases performs_of_perform hp with
    | selectDevice i => exact coherent_selectDevice h i
    | reload devices => exact coherent_reload r devices
    | idle => exact h
    | merge _ hm => exact coherent_of_merges h hm
    | applyLocale language region => exact ⟨h.1, h.2, h.3, h.4⟩
    | applyVersion version => exact ⟨h.1, h.2, h.3, h.4⟩

theorem Coherent.run (h : r.Coherent) (ops : List Op) : (r.run ops).Coherent := by
  induction ops generalizing r with
  | nil => exact h
  | cons op ops ih => exact ih (coherent_step h op)

/-- **In every run of a fresh resolver** the variants are those of the selected device. -/
theorem coherent_run (devices : List Device) (ops : List Op) :
    ((ofDevices devices).run ops).Coherent :=
  (coherent_ofDevices devices).run ops

/-! ## Which operations fail -/

/-- A variant is missing only if the selected device has none of its name. -/
theorem applyVariant_eq_error_iff {name : String} {e : SelectionError} :
    r.applyVariant name = .error e ↔
      ∃ d, r.device? = some d ∧ name ∉ d.variantNames ∧ e = .noSuchVariant d.name name := by
  unfold applyVariant
  cases hd : r.device? with
  | none => simp
  | some d =>
    rcases d.variant?_cases name with ⟨hnot, hq⟩ | ⟨q, hmem, hq⟩
    · simp [hq, hnot, eq_comm]
    · simp [hq, hmem]

/-- Every offered variant can be applied. -/
theorem Coherent.applyVariant_eq_ok (h : r.Coherent) {name : String} (hm : name ∈ r.variantNames) :
    ∃ next q, r.applyVariant name = .ok (next, true) ∧ r.Merges name q next := by
  obtain ⟨d, q, hd, hq⟩ := h.exists_named? hm
  exact ⟨_, q, applyVariant_eq_ok_true_iff.mpr ⟨d, q, hd, hq, rfl⟩, by simp [named?, hd, hq], rfl⟩

/-- The selected variant can always be applied. -/
theorem Coherent.applySelected_eq_ok (h : r.Coherent) : ∃ p, r.applySelected = .ok p := by
  unfold applySelected
  cases hv : r.variant? with
  | none => exact ⟨_, rfl⟩
  | some name =>
    obtain ⟨next, q, happly, -⟩ := h.applyVariant_eq_ok (mem_variantNames_of_variant? hv)
    exact ⟨_, happly⟩

/-- The application of a variant by its index fails only for an index outside of the list. -/
theorem Coherent.applyVariantAt_eq_error_iff (h : r.Coherent) {i : Nat} {e : SelectionError} :
    r.applyVariantAt i = .error e ↔
      r.variantNames.length ≤ i ∧ e = .outOfRange "config" i r.variantNames.length := by
  unfold applyVariantAt
  cases hget : r.variantNames[i]? with
  | none =>
    have hle : r.variantNames.length ≤ i := List.getElem?_eq_none_iff.mp hget
    simp [hle, eq_comm]
  | some name =>
    have hlt : i < r.variantNames.length := (List.getElem?_eq_some_iff.mp hget).1
    obtain ⟨next, q, happly, -⟩ := h.applyVariant_eq_ok (List.mem_of_getElem? hget)
    simp [happly, Nat.not_le_of_lt hlt]

theorem map_eq_error_iff {α β ε : Type} {f : α → β} {x : Except ε α} {e : ε} :
    x.map f = .error e ↔ x = .error e := by
  cases x <;> simp [Except.map]

/-- Nothing but the application of a variant by its name misses a variant. -/
theorem Coherent.perform_eq_noSuchVariant_iff (h : r.Coherent) {op : Op} {device name : String} :
    r.perform op = .error (.noSuchVariant device name) ↔
      op = .applyVariant name ∧
        ∃ d, r.device? = some d ∧ d.name = device ∧ name ∉ d.variantNames := by
  cases op with
  | applyVariant name' =>
    rw [perform, map_eq_error_iff, applyVariant_eq_error_iff]
    constructor
    · rintro ⟨d, hd, hnot, he⟩
      cases he
      exact ⟨rfl, d, hd, rfl, hnot⟩
    · rintro ⟨hop, d, hd, rfl, hnot⟩
      cases hop
      exact ⟨d, hd, hnot, rfl⟩
  | applyVariantAt i =>
    rw [perform, map_eq_error_iff, h.applyVariantAt_eq_error_iff]
    simp
  | applySelected =>
    obtain ⟨p, hp⟩ := h.applySelected_eq_ok
    simp [perform, hp, Except.map]
  | selectDevice i => simp [perform]
  | reload devices => simp [perform]
  | applyLocale language region => simp [perform]
  | applyVersion version => simp [perform]

/-! ## The variant in effect -/

/-- For the kinds that come from the device, the effective configuration is what the selected device
has under the name of the selected variant. -/
def ShowsVariant (r : Resolver) : Prop :=
  ∀ name, r.variant? = some name →
    ∃ d q, r.device? = some d ∧ d.variant? name = some q ∧
      ∀ k, k ∉ Kind.userChosen → r.current.get? k = q.get? k

theorem showsVariant_of_merges {name : String} {q : QualifierSet} (h : r.Coherent)
    (hm : r.Merges name q next) : next.ShowsVariant := by
  intro shown hshown
  obtain ⟨i, hi, hget⟩ := hm.variantIndex_eq h
  rw [variant?, hi, Option.bind_some, hget] at hshown
  cases hshown
  obtain ⟨hnamed, rfl⟩ := hm
  obtain ⟨d, hd, hq⟩ := Option.bind_eq_some_iff.mp hnamed
  refine ⟨d, q, hd, hq, fun k hk => ?_⟩
  rw [get?_merge, if_neg hk]

/-- Once the selected variant is applied, it is the one in effect. -/
theorem Coherent.showsVariant_applySelected (h : r.Coherent) :
    (r.step .applySelected).ShowsVariant := by
  cases hv : r.variant? with
  | none =>
    have hstep : r.step .applySelected = r := by
      simp only [step_applySelected, applySelected, hv, afterApplying]
    intro name hname
    rw [hstep, hv] at hname
    cases hname
  | some name =>
    obtain ⟨next, q, happly, hm⟩ := h.applyVariant_eq_ok (mem_variantNames_of_variant? hv)
    have hstep : r.step .applySelected = next := by
      simp only [step_applySelected, applySelected, hv, happly, afterApplying]
    rw [hstep]
    exact showsVariant_of_merges h hm

/-- Does an operation select a device? The variant of that device is not in effect yet. -/
def Op.selectsDevice : Op → Bool
  | .selectDevice _ => true
  | .reload _ => true
  | _ => false

/-- Operations that select no device leave the catalog and the selected device alone. -/
theorem device_step (r : Resolver) {op : Op} (hop : op.selectsDevice = false) :
    (r.step op).devices = r.devices ∧ (r.step op).device? = r.device? := by
  unfold step
  cases hp : r.perform op with
  | error e => exact ⟨rfl, rfl⟩
  | ok p =>
    obtain ⟨next, reply⟩ := p
    cases performs_of_perform hp with
    | selectDevice i => cases hop
    | reload devices => cases hop
    | merge _ hm =>
      obtain ⟨-, rfl⟩ := hm
      exact ⟨rfl, rfl⟩
    | _ => exact ⟨rfl, rfl⟩

/-- A change of the choices of the user leaves the variant in effect. -/
theorem ShowsVariant.withCurrent (h : r.ShowsVariant) {q : QualifierSet}
    (hq : ∀ k, k ∉ Kind.userChosen → q.get? k = r.current.get? k) :
    ({ r with current := q } : Resolver).ShowsVariant := by
  intro name hname
  obtain ⟨d, v, hd, hv, hkinds⟩ := h name hname
  exact ⟨d, v, hd, hv, fun k hk => (hq k hk).trans (hkinds k hk)⟩

theorem showsVariant_step (h : r.Coherent) (hs : r.ShowsVariant) {op : Op}
    (hop : op.selectsDevice = false) : (r.step op).ShowsVariant := by
  unfold step
  cases hp : r.perform op with
  | error e => exact hs
  | ok p =>
    obtain ⟨next, reply⟩ := p
    cases performs_of_perform hp with
    | selectDevice i => cases hop
    | reload devices => cases hop
    | idle => exact hs
    | merge _ hm => exact showsVariant_of_merges h hm
    | applyLocale language region =>
      refine hs.withCurrent fun k hk => ?_
      rw [get?_put_userChosen (by decide) hk, get?_put_userChosen (by decide) hk]
    | applyVersion version =>
      exact hs.withCurrent fun k hk => get?_put_userChosen (by decide) hk _ _

theorem showsVariant_run (h : r.Coherent) (hs : r.ShowsVariant) {ops : List Op}
    (hops : ∀ op ∈ ops, op.selectsDevice = false) : (r.run ops).ShowsVariant := by
  induction ops generalizing r with
  | nil => exact hs
  | cons op ops ih =>
    have hstep := showsVariant_step h hs (hops op List.mem_cons_self)
    exact ih (coherent_step h op) hstep fun op' hop' => hops op' (List.mem_cons_of_mem op hop')

end Resolver

end ConfigBar
