import ConfigBar.Proofs.Resolver.History
import ConfigBar.Proofs.Resolver.Variants
/-!
# The parts of the resolver

A resolver has three parts: the devices, with the selected variant and the kinds of the effective
configuration that come from it (`withoutChoices`), the language with the region (`locale`), and the
version. The parts do not meet. An operation writes one of them, and what it makes of a part depends
on that part alone.

* `withoutChoices_run`, `locale_run`, `version_run` — operations on other parts leave a part alone
* `withoutChoices_run_congr`, `locale_run_congr`, `version_run_congr` — a part goes on from what it
  was
* `eq_of_parts` — there is nothing else
-/

namespace ConfigBar.Resolver

variable {r s : Resolver}

/-! ## What the user chose -/

/-- Operations that do not write a kind leave it alone. -/
theorem get?_run_of_writes? {k : Kind} {ops : List Op}
    (h : ∀ op ∈ ops, ∀ r, writes? k r op = none) (r : Resolver) :
    (r.run ops).current.get? k = r.current.get? k := by
  induction ops generalizing r with
  | nil => rfl
  | cons op ops ih =>
    have hstep : (r.step op).current.get? k = r.current.get? k := by
      rw [get?_step, h op List.mem_cons_self, Option.getD_none]
    rw [run_cons, ih (fun op' hop' => h op' (List.mem_cons_of_mem op hop')), hstep]

/-- What is written into a kind that the user chooses is said by the operation alone. -/
theorem writes?_congr {k : Kind} (hk : k ∈ Kind.userChosen) (r s : Resolver) (op : Op) :
    writes? k r op = writes? k s op := by
  simp only [Kind.userChosen, List.mem_cons, List.not_mem_nil, or_false] at hk
  rcases hk with rfl | rfl | rfl <;> rfl

theorem get?_run_congr {k : Kind} (hk : k ∈ Kind.userChosen)
    (h : r.current.get? k = s.current.get? k) (ops : List Op) :
    (r.run ops).current.get? k = (s.run ops).current.get? k := by
  induction ops generalizing r s with
  | nil => exact h
  | cons op ops ih =>
    refine ih ?_
    rw [get?_step, get?_step, writes?_congr hk r s, h]

/-- The language and the region of the effective configuration. -/
def locale (r : Resolver) : Option String × Option String := (r.current.language, r.current.region)

theorem locale_eq_of_get? (hl : r.current.get? .language = s.current.get? .language)
    (hr : r.current.get? .region = s.current.get? .region) : r.locale = s.locale := by
  have hlanguage : r.current.language = s.current.language :=
    Option.map_injective (fun _ _ => Qualifier.language.inj) hl
  have hregion : r.current.region = s.current.region :=
    Option.map_injective (fun _ _ => Qualifier.region.inj) hr
  simp only [locale, hlanguage, hregion]

/-- Only the application of a locale touches the language and the region. -/
theorem locale_run {ops : List Op} (h : ∀ op ∈ ops, op.locale? = none) (r : Resolver) :
    (r.run ops).locale = r.locale := by
  refine locale_eq_of_get? (get?_run_of_writes? ?_ r) (get?_run_of_writes? ?_ r)
  · intro op hop r
    simp [writes?, h op hop]
  · intro op hop r
    simp [writes?, h op hop]

theorem locale_run_congr (h : r.locale = s.locale) (ops : List Op) :
    (r.run ops).locale = (s.run ops).locale := by
  obtain ⟨hlanguage, hregion⟩ := Prod.mk.inj h
  refine locale_eq_of_get? (get?_run_congr (by decide) ?_ ops) (get?_run_congr (by decide) ?_ ops)
  · exact congrArg (Option.map Qualifier.language) hlanguage
  · exact congrArg (Option.map Qualifier.region) hregion

theorem locale_applyLocale (r : Resolver) (language : String) (region : Option String) :
    (r.applyLocale (some (.language language)) (region.map .region)).locale =
      (some language, region) := by
  cases region <;> rfl

theorem version_eq_of_get? (h : r.current.get? .version = s.current.get? .version) :
    r.current.version = s.current.version :=
  Option.map_injective (fun _ _ => Qualifier.version.inj) h

/-- Only the application of a version touches the version. -/
theorem version_run {ops : List Op} (h : ∀ op ∈ ops, op.version? = none) (r : Resolver) :
    (r.run ops).current.version = r.current.version := by
  refine version_eq_of_get? (get?_run_of_writes? ?_ r)
  intro op hop r
  simp [writes?, h op hop]

theorem version_run_congr (h : r.current.version = s.current.version) (ops : List Op) :
    (r.run ops).current.version = (s.run ops).current.version := by
  refine version_eq_of_get? (get?_run_congr (by decide) ?_ ops)
  exact congrArg (Option.map Qualifier.version) h

/-! ## What comes from the device -/

/-- The resolver without what the user chose. -/
def withoutChoices (r : Resolver) : Resolver := { r with current := merge ∅ r.current }

/-- Resolvers that differ in the choices of the user differ in the effective configuration only. -/
theorem exists_current (h : r.withoutChoices = s.withoutChoices) :
    ∃ q, s = { r with current := q } ∧ merge ∅ r.current = merge ∅ q := by
  simp only [withoutChoices, Resolver.mk.injEq] at h
  obtain ⟨hdevices, hdevice, hnames, hvariant, hcurrent⟩ := h
  refine ⟨s.current, ?_, hcurrent⟩
  cases s
  simp_all

theorem devices_eq (h : r.withoutChoices = s.withoutChoices) : r.devices = s.devices := by
  obtain ⟨q, rfl, -⟩ := exists_current h
  rfl

theorem merge_put {k : Kind} (hk : k ∈ Kind.userChosen) (s : QualifierSet) (q : Option Qualifier) :
    merge ∅ (s.put k q) = merge ∅ s := by
  refine QualifierSet.ext_get? fun k' => ?_
  rw [get?_merge, get?_merge]
  by_cases hk' : k' ∈ Kind.userChosen
  · rw [if_pos hk', if_pos hk']
  · rw [if_neg hk', if_neg hk', get?_put_userChosen hk hk']

/-- A merge keeps nothing of what came from the device before. -/
theorem merge_merge (p q variant : QualifierSet) :
    merge p (merge q variant) = merge p variant := by
  refine QualifierSet.ext_get? fun k => ?_
  by_cases hk : k ∈ Kind.userChosen
  · simp only [get?_merge, if_pos hk]
  · simp only [get?_merge, if_neg hk]

theorem withoutChoices_applyLocale (r : Resolver) (language region : Option Qualifier) :
    (r.applyLocale language region).withoutChoices = r.withoutChoices := by
  unfold withoutChoices applyLocale
  rw [merge_put (by decide), merge_put (by decide)]

theorem withoutChoices_applyVersion (r : Resolver) (version : Option UInt32) :
    (r.applyVersion version).withoutChoices = r.withoutChoices := by
  unfold withoutChoices applyVersion
  rw [merge_put (by decide)]

/-- The choices of the user do not touch the devices. -/
theorem withoutChoices_run {ops : List Op}
    (h : ∀ op ∈ ops, op.locale?.isSome ∨ op.version?.isSome) (r : Resolver) :
    (r.run ops).withoutChoices = r.withoutChoices := by
  induction ops generalizing r with
  | nil => rfl
  | cons op ops ih =>
    have hstep : (r.step op).withoutChoices = r.withoutChoices := by
      cases op with
      | applyLocale language region => exact withoutChoices_applyLocale r language region
      | applyVersion version => exact withoutChoices_applyVersion r version
      | _ => simp [Op.locale?, Op.version?] at h
    rw [run_cons, ih (fun op' hop' => h op' (List.mem_cons_of_mem op hop')), hstep]

/-! ## Devices and variants -/

/-- Two applications of a variant fail alike, or they find a variant alike and lead to resolvers that
agree but for the choices of the user. -/
inductive SameApplied :
    Except SelectionError (Resolver × Bool) → Except SelectionError (Resolver × Bool) → Prop where
  | failed (e : SelectionError) : SameApplied (.error e) (.error e)
  | applied {r s : Resolver} (changed : Bool) :
    r.withoutChoices = s.withoutChoices → SameApplied (.ok (r, changed)) (.ok (s, changed))

theorem sameApplied_applyVariant (h : r.withoutChoices = s.withoutChoices) (name : String) :
    SameApplied (r.applyVariant name) (s.applyVariant name) := by
  obtain ⟨q, rfl, -⟩ := exists_current h
  have hdevice : ({ r with current := q } : Resolver).device? = r.device? := rfl
  unfold applyVariant
  rw [hdevice]
  cases r.device? with
  | none => exact .applied false h
  | some d =>
    dsimp only
    cases d.variant? name with
    | none => exact .failed _
    | some variant =>
      refine .applied true ?_
      simp only [withoutChoices, merge_merge]

theorem sameApplied_applyVariantAt (h : r.withoutChoices = s.withoutChoices) (i : Nat) :
    SameApplied (r.applyVariantAt i) (s.applyVariantAt i) := by
  have hnames : s.variantNames = r.variantNames := (congrArg variantNames h).symm
  unfold applyVariantAt
  rw [hnames]
  cases r.variantNames[i]? with
  | none => exact .failed _
  | some name => exact sameApplied_applyVariant h name

theorem sameApplied_applySelected (h : r.withoutChoices = s.withoutChoices) :
    SameApplied r.applySelected s.applySelected := by
  have hvariant : s.variant? = r.variant? := (congrArg variant? h).symm
  unfold applySelected
  rw [hvariant]
  cases r.variant? with
  | none => exact .applied false h
  | some name => exact sameApplied_applyVariant h name

theorem SameApplied.afterApplying {x y : Except SelectionError (Resolver × Bool)}
    (hxy : SameApplied x y) (h : r.withoutChoices = s.withoutChoices) :
    (r.afterApplying x).withoutChoices = (s.afterApplying y).withoutChoices := by
  cases hxy with
  | failed e => exact h
  | applied changed hnext => exact hnext

theorem selectDevice_congr (h : r.withoutChoices = s.withoutChoices) (i : Nat) :
    (r.selectDevice i).1.withoutChoices = (s.selectDevice i).1.withoutChoices ∧
      (r.selectDevice i).2 = (s.selectDevice i).2 := by
  obtain ⟨q, rfl, hq⟩ := exists_current h
  unfold selectDevice
  dsimp only
  cases r.devices[i]? with
  | none => exact ⟨h, rfl⟩
  | some d =>
    refine ⟨?_, rfl⟩
    simp only [withoutChoices, withDevice, hq]

theorem reload_congr (h : r.withoutChoices = s.withoutChoices) (devices : List Device) :
    (r.reload devices).1.withoutChoices = (s.reload devices).1.withoutChoices ∧
      (r.reload devices).2 = (s.reload devices).2 := by
  have hindex : s.indexAfterReload devices = r.indexAfterReload devices :=
    (congrArg (indexAfterReload · devices) h).symm
  obtain ⟨q, rfl, hq⟩ := exists_current h
  unfold reload
  rw [hindex]
  by_cases hd : devices.isEmpty = true
  · rw [if_pos hd, if_pos hd]
    exact ⟨by simp only [withoutChoices, hq], rfl⟩
  · rw [if_neg hd, if_neg hd]
    have hcatalog : ({ r with devices } : Resolver).withoutChoices =
        ({ r with devices, current := q } : Resolver).withoutChoices := by
      simp only [withoutChoices, hq]
    obtain ⟨hnext, hselection⟩ := selectDevice_congr hcatalog (r.indexAfterReload devices)
    exact ⟨hnext, congrArg some hselection⟩

theorem withoutChoices_step_congr (h : r.withoutChoices = s.withoutChoices) (op : Op) :
    (r.step op).withoutChoices = (s.step op).withoutChoices := by
  cases op with
  | selectDevice i => exact (selectDevice_congr h i).1
  | reload devices => exact (reload_congr h devices).1
  | applySelected =>
    rw [step_applySelected, step_applySelected]
    exact (sameApplied_applySelected h).afterApplying h
  | applyVariant name =>
    rw [step_applyVariant, step_applyVariant]
    exact (sameApplied_applyVariant h name).afterApplying h
  | applyVariantAt i =>
    rw [step_applyVariantAt, step_applyVariantAt]
    exact (sameApplied_applyVariantAt h i).afterApplying h
  | applyLocale language region =>
    show (r.applyLocale _ _).withoutChoices = (s.applyLocale _ _).withoutChoices
    rw [withoutChoices_applyLocale, withoutChoices_applyLocale, h]
  | applyVersion version =>
    show (r.applyVersion _).withoutChoices = (s.applyVersion _).withoutChoices
    rw [withoutChoices_applyVersion, withoutChoices_applyVersion, h]

theorem withoutChoices_run_congr (h : r.withoutChoices = s.withoutChoices) (ops : List Op) :
    (r.run ops).withoutChoices = (s.run ops).withoutChoices := by
  induction ops generalizing r s with
  | nil => exact h
  | cons op ops ih => exact ih (withoutChoices_step_congr h op)

/-! ## The parts together -/

/-- A resolver is determined by its parts. -/
theorem eq_of_parts (hd : r.withoutChoices = s.withoutChoices) (hl : r.locale = s.locale)
    (hv : r.current.version = s.current.version) : r = s := by
  obtain ⟨q, rfl, hq⟩ := exists_current hd
  obtain ⟨hlanguage, hregion⟩ := Prod.mk.inj hl
  have hcurrent : r.current = q := by
    rw [merge_eq, merge_eq] at hq
    simp only [QualifierSet.mk.injEq] at hq
    cases q
    cases hr : r.current
    simp_all
  rw [← hcurrent]

end ConfigBar.Resolver
