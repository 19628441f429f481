import ConfigBar.Resolver.Run
/-!
# Merging variants

A variant enters the effective configuration by a merge, and every operation that merges goes
through `applyVariant`.

* `get?_merge` — a merge keeps the kinds that the user chose and takes all others from the variant
* `applyVariant_eq_ok_true_iff` — what the application of a variant needs and leads to
* `Performs` — what each operation that succeeds does; only one of its cases merges a variant
* `performs_of_perform` — the inversion of `perform` by these cases
-/

namespace ConfigBar

/-! ## The merge -/

/-- A qualifier that stands in a slot is of the kind of the slot. -/
theorem QualifierSet.filter_get? (s : QualifierSet) (k : Kind) :
    (s.get? k).filter (·.kind = k) = s.get? k := by
  cases h : s.get? k with
  | none => rfl
  | some q => simp [Option.filter, kind_of_get? h]

namespace Resolver

/-- A merge keeps the kinds that the user chose; all others are those of the variant. -/
theorem get?_merge (current variant : QualifierSet) (k : Kind) :
    (merge current variant).get? k =
      if k ∈ Kind.userChosen then current.get? k else variant.get? k := by
  unfold merge Kind.userChosen
  simp only [List.foldl_cons, List.foldl_nil, QualifierSet.get?_put, List.mem_cons,
    List.not_mem_nil, or_false]
  by_cases hv : k = .version
  · subst hv
    simp [QualifierSet.filter_get?]
  · by_cases hr : k = .region
    · subst hr
      simp [QualifierSet.filter_get?]
    · by_cases hl : k = .language
      · subst hl
        simp [QualifierSet.filter_get?]
      · simp [hv, hr, hl, Ne.symm hv, Ne.symm hr, Ne.symm hl]

/-- A merge takes everything from the variant but the three kinds that the user chose. -/
theorem merge_eq (current variant : QualifierSet) :
    merge current variant = { variant with
      language := current.language, region := current.region, version := current.version } := by
  refine QualifierSet.ext_get? fun k => ?_
  rw [get?_merge]
  cases k <;> rfl

/-- A choice of the user leaves the kinds that come from the device alone. -/
theorem get?_put_userChosen {k k' : Kind} (hk : k ∈ Kind.userChosen) (hk' : k' ∉ Kind.userChosen)
    (s : QualifierSet) (q : Option Qualifier) : (s.put k q).get? k' = s.get? k' := by
  have hne : ¬k = k' := fun he => hk' (he ▸ hk)
  rw [QualifierSet.get?_put, if_neg hne]

/-! ## The application of a variant -/

theorem applyVariant_eq_ok_true_iff {r next : Resolver} {name : String} :
    r.applyVariant name = .ok (next, true) ↔
      ∃ d variant, r.device? = some d ∧ d.variant? name = some variant ∧
        next = { r with
          variantIndex := r.variantNames.findIdx? (· == name)
          current := merge r.current variant } := by
  unfold applyVariant
  cases hd : r.device? with
  | none => simp
  | some d =>
    cases hv : d.variant? name with
    | none => simp [hv]
    | some variant => simp [hv, eq_comm]

theorem applyVariant_eq_ok_false_iff {r next : Resolver} {name : String} :
    r.applyVariant name = .ok (next, false) ↔ r.device? = none ∧ next = r := by
  unfold applyVariant
  cases hd : r.device? with
  | none => simp [eq_comm]
  | some d =>
    cases hv : d.variant? name with
    | none => simp [hv]
    | some variant => simp [hv]

/-- The name of the variant that an operation asks for. -/
def Op.variantName? (r : Resolver) : Op → Option String
  | .applySelected => r.variant?
  | .applyVariant name => some name
  | .applyVariantAt i => r.variantNames[i]?
  | _ => none

/-- The qualifiers that the selected device has under the name of a variant. -/
def named? (r : Resolver) (name : String) : Option QualifierSet :=
  r.device?.bind fun d => d.variant? name

/-- What it takes to merge the variant of a name, and what has changed afterwards: the selected
index and the effective configuration. -/
def Merges (r : Resolver) (name : String) (variant : QualifierSet) (next : Resolver) : Prop :=
  r.named? name = some variant ∧
    next = { r with
      variantIndex := r.variantNames.findIdx? (· == name)
      current := merge r.current variant }

theorem applyVariant_cases {r next : Resolver} {name : String} {changed : Bool}
    (h : r.applyVariant name = .ok (next, changed)) :
    (changed = false ∧ next = r) ∨ (changed = true ∧ ∃ variant, r.Merges name variant next) := by
  cases changed with
  | false => exact Or.inl ⟨rfl, (applyVariant_eq_ok_false_iff.mp h).2⟩
  | true =>
    obtain ⟨d, variant, hd, hv, hs⟩ := applyVariant_eq_ok_true_iff.mp h
    exact Or.inr ⟨rfl, variant, by simp [named?, hd, hv], hs⟩

/-- What an operation that succeeds does to the resolver, and what it answers. -/
inductive Performs (r : Resolver) : Op → Resolver → Reply → Prop where
  | selectDevice (i : Nat) :
    Performs r (.selectDevice i) (r.selectDevice i).1 (.device (r.selectDevice i).2)
  | reload (devices : List Device) :
    Performs r (.reload devices) (r.reload devices).1
      ((r.reload devices).2.elim .noDevice .device)
  /-- There is no device, or no variant is selected. -/
  | idle {op : Op} : Performs r op r (.applied false)
  | merge {op : Op} {name : String} {variant : QualifierSet} {next : Resolver} :
    op.variantName? r = some name → r.Merges name variant next → Performs r op next (.applied true)
  | applyLocale (language region : Option Qualifier) :
    Performs r (.applyLocale language region) (r.applyLocale language region) .done
  | applyVersion (version : Option UInt32) :
    Performs r (.applyVersion version) (r.applyVersion version) .done

theorem performs_of_applyVariant {r next : Resolver} {op : Op} {name : String} {reply : Reply}
    (hname : op.variantName? r = some name)
    (h : (r.applyVariant name).map (fun p => p.map id Reply.applied) = .ok (next, reply)) :
    r.Performs op next reply := by
  cases ha : r.applyVariant name with
  | error e => rw [ha] at h; cases h
  | ok p =>
    rw [ha] at h
    cases h
    obtain ⟨hc, hn⟩ | ⟨hc, variant, hm⟩ := applyVariant_cases ha
    · simp only [hc, hn]
      exact .idle
    · simp only [hc]
      exact .merge hname hm

/-- An operation that succeeds does what `Performs` says. -/
theorem performs_of_perform {r next : Resolver} {op : Op} {reply : Reply}
    (h : r.perform op = .ok (next, reply)) : r.Performs op next reply := by
  cases op with
  | selectDevice i => cases h; exact .selectDevice i
  | reload devices => cases h; exact .reload devices
  | applyVariant name => exact performs_of_applyVariant rfl h
  | applyVariantAt i =>
    simp only [perform, applyVariantAt] at h
    split at h
    · cases h
    · next name hi => exact performs_of_applyVariant hi h
  | applySelected =>
    simp only [perform, applySelected] at h
    split at h
    · cases h
      exact .idle
    · next name hi => exact performs_of_applyVariant hi h
  | applyLocale language region => cases h; exact .applyLocale language region
  | applyVersion version => cases h; exact .applyVersion version

/-! ## The state after an operation -/

theorem run_nil (r : Resolver) : r.run [] = r := rfl

theorem run_cons (r : Resolver) (op : Op) (ops : List Op) :
    r.run (op :: ops) = (r.step op).run ops := rfl

theorem step_selectDevice (r : Resolver) (i : Nat) :
    r.step (.selectDevice i) = (r.selectDevice i).1 := rfl

theorem step_reload (r : Resolver) (devices : List Device) :
    r.step (.reload devices) = (r.reload devices).1 := rfl

/-- The state after an application of a variant that may fail or find nothing to apply. -/
def afterApplying (r : Resolver) (result : Except SelectionError (Resolver × Bool)) : Resolver :=
  match result with
  | .ok (next, _) => next
  | .error _ => r

theorem step_applySelected (r : Resolver) :
    r.step .applySelected = r.afterApplying r.applySelected := by
  simp only [step, perform]
  cases r.applySelected <;> rfl

theorem step_applyVariant (r : Resolver) (name : String) :
    r.step (.applyVariant name) = r.afterApplying (r.applyVariant name) := by
  simp only [step, perform]
  cases r.applyVariant name <;> rfl

theorem step_applyVariantAt (r : Resolver) (i : Nat) :
    r.step (.applyVariantAt i) = r.afterApplying (r.applyVariantAt i) := by
  simp only [step, perform]
  cases r.applyVariantAt i <;> rfl

end Resolver

end ConfigBar
