import ConfigBar.Project.Snapshot
/-!
# The faults of a project file

`ProjectFile.faults` lists everything that is wrong in a file, in the order of the file and without
stopping at a fault: the devices, in each of them its variants, then the styles of the two sections.
A name is at fault if it stands before in its list. `ProjectFile.IsSound` says what a file without
faults is (`faults_eq_nil_iff`), without an order.
-/

namespace ConfigBar

/-! ## Lists of named entries -/

/-- The faults of the entries of a list. `faults` gives those of an entry from the names before it. -/
def faultsAlong {α : Type} (name : α → String) (faults : List String → α → List ProjectFault)
    (before : List String) : List α → List ProjectFault
  | [] => []
  | a :: as => faults before a ++ faultsAlong name faults (before ++ [name a]) as

/-- A list has no faults exactly if no name is repeated and all entries are sound. -/
theorem faultsAlong_eq_nil_iff {α : Type} {name : α → String}
    {faults : List String → α → List ProjectFault} {IsSound : α → Prop}
    (h : ∀ before a, faults before a = [] ↔ name a ∉ before ∧ IsSound a) {before : List String}
    {as : List α} :
    faultsAlong name faults before as = [] ↔
      (∀ a ∈ as, name a ∉ before) ∧ (as.map name).Nodup ∧ ∀ a ∈ as, IsSound a := by
  -- the names before grow along the list, so they are general
  induction as generalizing before with
  | nil => simp [faultsAlong]
  | cons a as ih =>
    rw [faultsAlong, List.append_eq_nil_iff, h, ih]
    constructor
    · rintro ⟨⟨ha, hs⟩, hbefore, hnodup, hsound⟩
      refine ⟨?_, List.nodup_cons.2 ⟨?_, hnodup⟩, ?_⟩
      · rintro b (_ | ⟨_, hb⟩)
        · exact ha
        · exact fun hm => hbefore b hb (List.mem_append_left _ hm)
      · rintro hm
        obtain ⟨b, hb, hba⟩ := List.mem_map.1 hm
        exact hbefore b hb (List.mem_append_right _ (List.mem_singleton.2 hba))
      · rintro b (_ | ⟨_, hb⟩)
        · exact hs
        · exact hsound b hb
    · rintro ⟨hbefore, hnodup, hsound⟩
      obtain ⟨ha, hnodup⟩ := List.nodup_cons.1 hnodup
      refine ⟨⟨hbefore a List.mem_cons_self, hsound a List.mem_cons_self⟩, fun b hb hm => ?_, hnodup,
        fun b hb => hsound b (List.mem_cons_of_mem _ hb)⟩
      rcases List.mem_append.1 hm with hm | hm
      · exact hbefore b (List.mem_cons_of_mem _ hb) hm
      · exact ha (List.mem_singleton.1 hm ▸ List.mem_map_of_mem hb)

/-! ## Devices -/

/-- The faults of a variant of a device, after variants with the names `before`. -/
def VariantEntry.faults (device : String) (before : List String) (v : VariantEntry) :
    List ProjectFault :=
  (if v.name ∈ before then [.duplicateVariant device v.name] else []) ++
    match QualifierSet.ofFolder v.qualifiers with
    | .error cause => [.invalidQualifiers device v.name cause]
    | .ok _ => []

/-- The faults of a device, after devices with the names `before`. -/
def DeviceEntry.faults (before : List String) (d : DeviceEntry) : List ProjectFault :=
  (if d.name ∈ before then [.duplicateDevice d.name] else []) ++
    ((if d.variants = [] then [.emptyDevice d.name] else []) ++
      faultsAlong VariantEntry.name (VariantEntry.faults d.name) [] d.variants)

/-- Can the qualifiers be read? -/
def VariantEntry.IsSound (v : VariantEntry) : Prop :=
  ∃ qualifiers, QualifierSet.ofFolder v.qualifiers = .ok qualifiers

/-- A device that can be built. -/
structure DeviceEntry.IsSound (d : DeviceEntry) : Prop where
  variants_ne_nil : d.variants ≠ []
  nodup : (d.variants.map VariantEntry.name).Nodup
  variants : ∀ v ∈ d.variants, v.IsSound

theorem VariantEntry.faults_eq_nil_iff (device : String) (before : List String)
    (v : VariantEntry) : v.faults device before = [] ↔ v.name ∉ before ∧ v.IsSound := by
  rw [faults, List.append_eq_nil_iff, IsSound]
  cases QualifierSet.ofFolder v.qualifiers <;> simp

theorem DeviceEntry.faults_eq_nil_iff (before : List String) (d : DeviceEntry) :
    d.faults before = [] ↔ d.name ∉ before ∧ d.IsSound := by
  rw [faults, List.append_eq_nil_iff, List.append_eq_nil_iff,
    faultsAlong_eq_nil_iff (VariantEntry.faults_eq_nil_iff d.name)]
  constructor
  · rintro ⟨hname, hvariants, -, hnodup, hsound⟩
    exact ⟨by simpa using hname, by simpa using hvariants, hnodup, hsound⟩
  · rintro ⟨hname, hvariants, hnodup, hsound⟩
    exact ⟨by simpa using hname, by simpa using hvariants, by simp, hnodup, hsound⟩

/-! ## Resources -/

/-- The faults of a style of a section, after styles with the names `before`. -/
def StyleEntry.faults (part : SectionName) (before : List String) (s : StyleEntry) :
    List ProjectFault :=
  if s.name ∈ before then [.duplicateStyle part s.name] else []

/-- The faults of a section that may be missing. -/
def ResourceSection.faults (part : SectionName) : Option ResourceSection → List ProjectFault
  | none => []
  | some s => faultsAlong StyleEntry.name (StyleEntry.faults part) [] s.styles

theorem ResourceSection.faults_eq_nil_iff (part : SectionName) (s : Option ResourceSection) :
    faults part s = [] ↔ ∀ r, s = some r → (r.styles.map StyleEntry.name).Nodup := by
  cases s with
  | none => simp [faults]
  | some r =>
    have h : ∀ before (s : StyleEntry), s.faults part before = [] ↔ s.name ∉ before ∧ True := by
      simp [StyleEntry.faults]
    simp [faults, faultsAlong_eq_nil_iff h]

/-! ## Files -/

/-- The faults of a project file in its order. -/
def ProjectFile.faults (f : ProjectFile) : List ProjectFault :=
  faultsAlong DeviceEntry.name DeviceEntry.faults [] f.devices ++
    (ResourceSection.faults .framework f.framework ++ ResourceSection.faults .project f.project)

/-- A project file that can be built. -/
structure ProjectFile.IsSound (f : ProjectFile) : Prop where
  nodup : (f.devices.map DeviceEntry.name).Nodup
  devices : ∀ d ∈ f.devices, d.IsSound
  framework : ∀ s, f.framework = some s → (s.styles.map StyleEntry.name).Nodup
  project : ∀ s, f.project = some s → (s.styles.map StyleEntry.name).Nodup

/-- The sound files are those without faults. -/
theorem ProjectFile.faults_eq_nil_iff (f : ProjectFile) : f.faults = [] ↔ f.IsSound := by
  rw [faults, List.append_eq_nil_iff, List.append_eq_nil_iff,
    faultsAlong_eq_nil_iff DeviceEntry.faults_eq_nil_iff, ResourceSection.faults_eq_nil_iff,
    ResourceSection.faults_eq_nil_iff]
  constructor
  · rintro ⟨⟨-, hnodup, hdevices⟩, hframework, hproject⟩
    exact ⟨hnodup, hdevices, hframework, hproject⟩
  · rintro ⟨hnodup, hdevices, hframework, hproject⟩
    exact ⟨⟨by simp, hnodup, hdevices⟩, hframework, hproject⟩

end ConfigBar
