import ConfigBar.Proofs.Project.Validation
import ConfigBar.Proofs.Resolver.Variants
/-!
# Variants by index and by name

A variant is chosen by its index among the offered names or by its name. The index leads to a name,
the name to the first variant that has it, and back to the first index of the name. If the device
has no two variants of the same name, all these are the same variant.

* `findIdx?_of_nodup`, `Device.variant?_of_nodup` — look-ups by names that are not repeated
* `offersAlike_run` — in every run, the choice by index and the choice by name
-/

namespace ConfigBar

variable {i : Nat} {name : String}

/-! ## Names that are not repeated -/

theorem findIdx?_of_nodup {names : List String} (h : names.Nodup) (hi : names[i]? = some name) :
    names.findIdx? (· == name) = some i := by
  obtain ⟨hnone, -⟩ | ⟨j, found, hj, hget, hfind⟩ := findIdx?_cases (· == name) names
  · exact absurd (List.findIdx?_eq_none_iff.mp hnone name (List.mem_of_getElem? hi)) (by simp)
  · have hfound : found = name := by simpa using List.find?_some hfind
    rw [hfound] at hget
    have hlt : i < names.length := (List.getElem?_eq_some_iff.mp hi).1
    rw [hj, (List.getElem?_inj hlt h).mp (hi.trans hget.symm)]

/-- The name at an index is that of the variant at the index, and the name leads to the variant. -/
theorem Device.variant?_of_nodup {d : Device} (h : d.variantNames.Nodup)
    (hi : d.variantNames[i]? = some name) :
    ∃ v, d.variants[i]? = some v ∧ d.variant? name = some v.qualifiers := by
  have hindex := findIdx?_of_nodup h hi
  unfold Device.variantNames at hindex
  obtain ⟨-, hnone, -⟩ | ⟨j, v, -, hj, hget, hfind⟩ :=
    findIdx?_map_cases Variant.name name d.variants
  · rw [hindex] at hnone
    cases hnone
  · rw [hindex] at hj
    cases hj
    exact ⟨v, hget, by rw [Device.variant?, hfind, Option.map_some]⟩

namespace Resolver

variable {r : Resolver} {d : Device}

/-- The offered variants are those of a device, chosen by their indices and their names alike. -/
structure OffersAlike (r : Resolver) (d : Device) : Prop where
  /-- The choice by an index is that by the name at the index: the index is selected, and the kinds
  that come from the device are those of the variant at the index. -/
  choose : ∀ i name, r.variantNames[i]? = some name → ∃ v next, d.variants[i]? = some v ∧
    r.applyVariantAt i = .ok (next, true) ∧ r.applyVariant name = .ok (next, true) ∧
      next.variantIndex = some i ∧
        ∀ k, k ∉ Kind.userChosen → next.current.get? k = v.qualifiers.get? k
  /-- No other names can be chosen. -/
  exists_ok_iff : ∀ name, (∃ p, r.applyVariant name = .ok p) ↔ name ∈ r.variantNames

theorem Coherent.offersAlike (h : r.Coherent) (hd : r.device? = some d)
    (hnodup : d.variantNames.Nodup) : r.OffersAlike d where
  choose i name hi := by
    have hat : r.applyVariantAt i = r.applyVariant name := by rw [applyVariantAt, hi]
    rw [h.variantNames_eq hd] at hi
    obtain ⟨v, hv, hvariant⟩ := Device.variant?_of_nodup hnodup hi
    have happly := applyVariant_eq_ok_true_iff.mpr ⟨d, v.qualifiers, hd, hvariant, rfl⟩
    refine ⟨v, _, hv, hat.trans happly, happly, ?_, fun k hk => ?_⟩
    · rw [h.variantNames_eq hd]
      exact findIdx?_of_nodup hnodup hi
    · rw [get?_merge, if_neg hk]
  exists_ok_iff name := by
    constructor
    · rintro ⟨p, hp⟩
      by_contra hnot
      rw [h.variantNames_eq hd] at hnot
      rw [applyVariant_eq_error_iff.mpr ⟨d, hd, hnot, rfl⟩] at hp
      cases hp
    · intro hmem
      obtain ⟨next, q, happly, -⟩ := h.applyVariant_eq_ok hmem
      exact ⟨_, happly⟩

/-- **The choice of a variant by its index and by its name agree** in every run of a fresh resolver,
if the selected device has no two variants of the same name. No device of a checked project has. -/
theorem offersAlike_run (devices : List Device) (ops : List Op) :
    (∀ d, ((ofDevices devices).run ops).device? = some d → d.variantNames.Nodup →
      ((ofDevices devices).run ops).OffersAlike d) ∧
    ∀ f s, ProjectSnapshot.build f = .ok s → ∀ d ∈ s.devices, d.variantNames.Nodup :=
  ⟨fun _ hd hnodup => (coherent_run devices ops).offersAlike hd hnodup,
    fun _ _ hbuild _ hd => ProjectSnapshot.nodup_variantNames_of_build hbuild hd⟩

/-- A device that was found again behind one with a repeated name of variants. -/
theorem offersAlike_run_of_reloaded_device :
    let landscape : QualifierSet := { QualifierSet.empty with orientation := some .landscape }
    let phone : Device := ⟨"Phone", [⟨"Portrait", ∅⟩, ⟨"Landscape", landscape⟩], none, none⟩
    let doubled : Device := ⟨"Doubled", [⟨"Screen", ∅⟩, ⟨"Screen", landscape⟩], none, none⟩
    let r := (ofDevices [phone]).run [.selectDevice 0, .reload [doubled, phone], .applySelected]
    r.device? = some phone ∧ phone.variantNames.Nodup ∧
      ∃ next, r.applyVariantAt 1 = .ok (next, true) ∧
        r.applyVariant "Landscape" = .ok (next, true) ∧ next.variantIndex = some 1 ∧
          next.current.get? .orientation = some (.orientation .landscape) := by
  intro landscape phone doubled r
  have hdevice : r.device? = some phone := by decide +kernel
  have hnodup : phone.variantNames.Nodup := by decide
  have hname : r.variantNames[1]? = some "Landscape" := by decide +kernel
  have hoffers := (offersAlike_run [phone] _).1 phone hdevice hnodup
  obtain ⟨v, next, hv, hat, happly, hindex, hkinds⟩ := hoffers.choose 1 "Landscape" hname
  cases hv
  exact ⟨hdevice, hnodup, next, hat, happly, hindex, hkinds .orientation (by decide)⟩

end Resolver

end ConfigBar
