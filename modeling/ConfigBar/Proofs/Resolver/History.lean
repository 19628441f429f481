import ConfigBar.Proofs.Resolver.Merge
/-!
# What the effective configuration remembers of a run

The effective configuration is the result of three independent histories: the last locale that was
applied, the last version that was applied, and the last variant that was merged. `remembered` says
what they leave for each kind, and `get?_current_run` that the effective configuration holds just
that. Devices that were selected, catalogs that were replaced, operations that failed and variants
that were merged before leave nothing.
-/

namespace ConfigBar.Resolver

variable {α : Type}

/-! ## The last write of a run -/

/-- The last thing that the operations of a run write. What a single operation writes may depend
on the state before it. -/
def lastWrite (write? : Resolver → Op → Option α) (r : Resolver) : List Op → Option α
  | [] => none
  | op :: ops => (lastWrite write? (r.step op) ops).or (write? r op)

/-- If every step puts what it writes into a part of the state, and leaves the part alone when it
writes nothing, then the part holds the last write of the run. -/
theorem view_run (view : Resolver → α) {write? : Resolver → Op → Option α}
    (hstep : ∀ r op, view (r.step op) = (write? r op).getD (view r)) (r : Resolver)
    (ops : List Op) : view (r.run ops) = (lastWrite write? r ops).getD (view r) := by
  induction ops generalizing r with
  | nil => rfl
  | cons op ops ih =>
    show view ((r.step op).run ops) = _
    rw [ih, hstep, lastWrite]
    cases lastWrite write? (r.step op) ops <;> simp

theorem getD_lastWrite_map {β : Type} (f : α → Option β) (write? : Resolver → Op → Option α)
    (r : Resolver) (ops : List Op) :
    (lastWrite (fun s op => (write? s op).map f) r ops).getD none =
      (lastWrite write? r ops).bind f := by
  have hmap : lastWrite (fun s op => (write? s op).map f) r ops =
      (lastWrite write? r ops).map f := by
    induction ops generalizing r with
    | nil => rfl
    | cons op ops ih =>
      simp only [lastWrite, ih]
      cases lastWrite write? (r.step op) ops <;> simp
  rw [hmap]
  cases lastWrite write? r ops <;> rfl

/-! ## The three histories -/

/-- The language and the region that an operation applies. -/
def Op.locale? : Op → Option (Option Qualifier × Option Qualifier)
  | .applyLocale language region => some (language, region)
  | _ => none

/-- The version that an operation applies. -/
def Op.version? : Op → Option (Option UInt32)
  | .applyVersion version => some version
  | _ => none

/-- The qualifiers that an operation merges: those that the selected device has under the name of
the variant, if the operation answers that it has applied one. -/
def merged? (r : Resolver) (op : Op) : Option QualifierSet :=
  match r.perform op with
  | .ok (_, .applied true) => (op.variantName? r).bind r.named?
  | _ => none

/-- What a run leaves for a kind: the language and the region of the last locale and the level of
the last version, as far as they were given, with qualifiers of the right kind, and for all other
kinds what the last variant held that was merged. -/
def remembered (r : Resolver) (ops : List Op) : Kind → Option Qualifier
  | .language =>
    (lastWrite (fun _ op => op.locale?) r ops).bind fun l => l.1.filter (·.kind = .language)
  | .region =>
    (lastWrite (fun _ op => op.locale?) r ops).bind fun l => l.2.filter (·.kind = .region)
  | .version => (lastWrite (fun _ op => op.version?) r ops).bind fun v => v.map .version
  | k => (lastWrite merged? r ops).bind fun variant => variant.get? k

/-! ## One step -/

theorem current_selectDevice (r : Resolver) (i : Nat) :
    (r.selectDevice i).1.current = r.current := by
  unfold selectDevice
  split <;> rfl

theorem current_reload (r : Resolver) (devices : List Device) :
    (r.reload devices).1.current = r.current := by
  unfold reload
  split
  · rfl
  · exact current_selectDevice _ _

/-- An operation that applies no locale and no version changes the effective configuration by the
merge of a variant only. -/
theorem current_step {r : Resolver} {op : Op} (hl : op.locale? = none)
    (hv : op.version? = none) :
    (r.step op).current = (r.merged? op).elim r.current (merge r.current) := by
  unfold step merged?
  cases hp : r.perform op with
  | error e => rfl
  | ok p =>
    obtain ⟨next, reply⟩ := p
    cases performs_of_perform hp with
    | selectDevice i => exact current_selectDevice r i
    | reload devices =>
      show (r.reload devices).1.current = _
      cases hs : (r.reload devices).2 <;> simp [current_reload]
    | idle => rfl
    | merge hname hm =>
      obtain ⟨hnamed, rfl⟩ := hm
      simp [hname, hnamed]
    | applyLocale language region => cases hl
    | applyVersion version => cases hv

/-- What an operation writes into the slot of a kind, if it writes the slot at all. -/
def writes? (k : Kind) (r : Resolver) (op : Op) : Option (Option Qualifier) :=
  match k with
  | .language => op.locale?.map fun l => l.1.filter (·.kind = .language)
  | .region => op.locale?.map fun l => l.2.filter (·.kind = .region)
  | .version => op.version?.map fun v => v.map .version
  | k => (r.merged? op).map fun variant => variant.get? k

theorem get?_step (k : Kind) (r : Resolver) (op : Op) :
    (r.step op).current.get? k = (writes? k r op).getD (r.current.get? k) := by
  -- an operation writes into one history at most
  cases hl : op.locale? with
  | some l =>
    cases op with
    | applyLocale language region =>
      cases hl
      show ((r.current.put .language language).put .region region).get? k = _
      rw [QualifierSet.get?_put, QualifierSet.get?_put]
      cases k <;> simp [writes?, Op.locale?, Op.version?, merged?, perform]
    | _ => cases hl
  | none =>
    cases hv : op.version? with
    | some v =>
      cases op with
      | applyVersion version =>
        cases hv
        show (r.current.put .version (v.map .version)).get? k = _
        rw [QualifierSet.get?_put]
        cases k <;> simp [writes?, Op.locale?, Op.version?, merged?, perform]
        cases v <;> rfl
      | _ => cases hv
    | none =>
      rw [current_step hl hv]
      cases hm : r.merged? op with
      | none => cases k <;> simp [writes?, hl, hv, hm]
      | some variant =>
        rw [Option.elim, get?_merge]
        cases k <;> simp [writes?, hl, hv, hm, Kind.userChosen]

/-! ## The whole run -/

/-- The effective configuration of a run of a fresh resolver holds for each kind what the last
locale, the last version and the last merged variant leave, and nothing else. -/
theorem get?_current_run (devices : List Device) (ops : List Op) (k : Kind) :
    ((ofDevices devices).run ops).current.get? k = (ofDevices devices).remembered ops k := by
  have hempty : (ofDevices devices).current.get? k = none := QualifierSet.get?_empty k
  rw [view_run (fun r => r.current.get? k) (get?_step k), hempty]
  cases k <;> exact getD_lastWrite_map _ _ _ _

end ConfigBar.Resolver
