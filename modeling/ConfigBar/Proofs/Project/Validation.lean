import ConfigBar.Proofs.Checks
import ConfigBar.Proofs.Project.Faults
import Mathlib.Data.List.Forall2
/-!
# Projects are checked exactly

`ProjectSnapshot.build` stops at a fault. It is compared with the list of all faults (`Decides`):
what it reports is the head of the list, and it gives a snapshot exactly if the list is empty. The
snapshot then holds what the file says and nothing else (`ProjectSnapshot.IsOf`).

* `decides_variants`, `decides_devices`, `decides_styles` — the three loops, from any state in which
  they may be entered
* `isOf_section` — the maps of a section hold its styles and strings
* `build_exact` — the whole check
-/

namespace ConfigBar

/-! ## What a snapshot holds -/

/-- The variant of an entry. -/
structure Variant.IsOf (v : Variant) (e : VariantEntry) : Prop where
  name : v.name = e.name
  qualifiers : QualifierSet.ofFolder e.qualifiers = .ok v.qualifiers

/-- The device of an entry, with its variants in their order. -/
structure Device.IsOf (d : Device) (e : DeviceEntry) : Prop where
  name : d.name = e.name
  xdpi : d.xdpi = e.xdpi
  ydpi : d.ydpi = e.ydpi
  variants : List.Forall₂ Variant.IsOf d.variants e.variants

/-- The value of a type and a key. -/
def ResourceSnapshot.value? (s : ResourceSnapshot) (type : ResourceType) (key : String) :
    Option ResourceValue :=
  (s.values.get? type).bind fun values => values.get? key

/-- The resources of a section: its styles under their names, its strings and its languages. A type
without values has no map. -/
structure ResourceSnapshot.IsOf (s : ResourceSnapshot) (e : ResourceSection) : Prop where
  styles : ∀ key value, s.value? .style key = some value ↔
    ∃ style ∈ e.styles, style.name = key ∧ value = .style style.name style.parent
  strings : ∀ key value, s.value? .string key = some value ↔
    ∃ text, e.strings.get? key = some text ∧ value = .simple key text
  styles_eq_none_iff : s.values.get? .style = none ↔ e.styles = []
  strings_eq_none_iff : s.values.get? .string = none ↔ e.strings.toList = []
  others : ∀ type, type ≠ .style → type ≠ .string → s.values.get? type = none
  languages : ∀ language, Option.Rel (fun regions listed => ∀ r, r ∈ regions ↔ r ∈ listed)
    (s.languages.get? language) (e.languages.get? language)

/-- The snapshot of a file: its devices in their order and its sections. It has no path yet. -/
structure ProjectSnapshot.IsOf (s : ProjectSnapshot) (f : ProjectFile) : Prop where
  devices : List.Forall₂ Device.IsOf s.devices f.devices
  framework : Option.Rel ResourceSnapshot.IsOf s.framework f.framework
  project : Option.Rel ResourceSnapshot.IsOf s.project f.project
  source : s.source = none

namespace ProjectSnapshot

/-! ## Devices -/

theorem decides_variants (device : String) (done : List Variant) (es : List VariantEntry) :
    Decides (faultsAlong VariantEntry.name (VariantEntry.faults device) (done.map Variant.name) es)
      (fun built => ∃ vs, built = done ++ vs ∧ List.Forall₂ Variant.IsOf vs es)
      (buildVariants device done es) := by
  induction es generalizing done with
  | nil => exact ⟨rfl, [], by simp, .nil⟩
  | cons e es ih =>
    rw [buildVariants, faultsAlong, VariantEntry.faults, List.append_assoc]
    have seen : (done.any fun d => d.name == e.name) = true ↔ e.name ∈ done.map Variant.name := by
      simp
    refine Decides.guard seen fun _ => ?_
    cases hq : QualifierSet.ofFolder e.qualifiers with
    | error cause => exact rfl
    | ok qualifiers =>
      -- what has been built so far has just the names before
      have hrest := ih (done ++ [⟨e.name, qualifiers⟩])
      rw [List.map_append] at hrest
      refine hrest.imp fun built => ?_
      rintro ⟨vs, rfl, hvs⟩
      exact ⟨⟨e.name, qualifiers⟩ :: vs, by simp, .cons ⟨rfl, hq⟩ hvs⟩

theorem decides_device {seen before : List String} (h : ∀ n, n ∈ seen ↔ n ∈ before)
    (e : DeviceEntry) : Decides (e.faults before) (·.IsOf e) (buildDevice seen e) := by
  rw [buildDevice, DeviceEntry.faults]
  refine Decides.guard (by simp [h]) fun _ => Decides.guard (by simp) fun _ => ?_
  refine (decides_variants e.name [] e.variants).map fun built => ?_
  rintro ⟨vs, rfl, hvs⟩
  exact ⟨rfl, rfl, rfl, hvs⟩

theorem buildDevices_cons (seen : List String) (e : DeviceEntry) (es : List DeviceEntry) :
    buildDevices seen (e :: es) =
      (buildDevice seen e).bind fun d => (buildDevices (e.name :: seen) es).map (d :: ·) := by
  rw [buildDevices]
  cases buildDevice seen e <;> rfl

theorem decides_devices {seen before : List String} (h : ∀ n, n ∈ seen ↔ n ∈ before)
    (es : List DeviceEntry) :
    Decides (faultsAlong DeviceEntry.name DeviceEntry.faults before es)
      (fun ds => List.Forall₂ Device.IsOf ds es) (buildDevices seen es) := by
  induction es generalizing seen before with
  | nil => exact ⟨rfl, .nil⟩
  | cons e es ih =>
    rw [buildDevices_cons, faultsAlong]
    have seen' : ∀ n, n ∈ e.name :: seen ↔ n ∈ before ++ [e.name] := by
      intro n
      rw [List.mem_cons, h, List.mem_append, List.mem_singleton, or_comm]
    exact (decides_device h e).bind fun d hd => (ih seen').map fun ds hds => .cons hd hds

/-! ## Resources -/

/-- A map holds exactly the styles of a list, each under its name. -/
def HoldsStyles (styles : ResourceMap) (es : List StyleEntry) : Prop :=
  ∀ key value, styles.get? key = some value ↔
    ∃ e ∈ es, e.name = key ∧ value = .style e.name e.parent

theorem decides_styles (part : SectionName) {done : ResourceMap} {before : List String}
    (h : ∀ n, done.contains n = true ↔ n ∈ before) (es : List StyleEntry) :
    Decides (faultsAlong StyleEntry.name (StyleEntry.faults part) before es)
      (fun styles => ∀ key value, styles.get? key = some value ↔
        done.get? key = some value ∨
          ∃ e ∈ es, e.name = key ∧ value = .style e.name e.parent)
      (buildStyles part done es) := by
  induction es generalizing done before with
  | nil => exact ⟨rfl, by simp⟩
  | cons e es ih =>
    rw [buildStyles, faultsAlong, StyleEntry.faults]
    refine Decides.guard (h e.name) fun hnew => ?_
    have fresh : done.get? e.name = none := by
      rw [← h, SortedMap.contains] at hnew
      simpa using hnew
    have contains (n : String) :
        (done.insert e.name (.style e.name e.parent)).contains n = true ↔
          n ∈ before ++ [e.name] := by
      rw [SortedMap.contains, SortedMap.get?_insert, List.mem_append, ← h, SortedMap.contains]
      by_cases hn : e.name = n
      · simp [hn]
      · simp [hn, Ne.symm hn]
    refine (ih contains).imp fun styles hstyles key value => ?_
    rw [hstyles, SortedMap.get?_insert]
    -- the new style hides nothing, since its name was not there
    by_cases hk : e.name = key
    · subst hk
      simp [fresh, eq_comm]
    · simp [hk]

theorem get?_stringValues (strings : SortedMap String String) (key : String) :
    (stringValues strings).get? key = (strings.get? key).map fun text => .simple key text :=
  SortedMap.get?_ofList_map strings ResourceValue.simple key

theorem get?_languagesOf (languages : SortedMap String (List String)) (language : String) :
    (languagesOf languages).get? language = (languages.get? language).map SortedSet.ofList :=
  SortedMap.get?_ofList_map languages (fun _ regions => SortedSet.ofList regions) language

/-- The maps of the two types in a section. -/
theorem get?_typed (styles strings : ResourceMap) (type : ResourceType) :
    (SortedMap.ofList (typed .style styles ++ typed .string strings)).get? type =
      if type = .style then if styles.isEmpty then none else some styles
      else if type = .string then if strings.isEmpty then none else some strings
      else none := by
  have nodup : ((typed .style styles ++ typed .string strings).map Prod.fst).Nodup := by
    cases h : styles.isEmpty <;> cases h' : strings.isEmpty <;> simp [typed, h, h']
  rw [SortedMap.get?_ofList nodup]
  cases h : styles.isEmpty <;> cases h' : strings.isEmpty <;> cases type <;>
    simp [typed, h, h', SortedMap.find?]

theorem HoldsStyles.isEmpty_iff {styles : ResourceMap} {es : List StyleEntry}
    (h : HoldsStyles styles es) : styles.isEmpty = true ↔ es = [] := by
  rw [SortedMap.isEmpty_iff]
  constructor
  · intro hnone
    refine List.eq_nil_iff_forall_not_mem.2 fun e he => ?_
    have := (h e.name _).2 ⟨e, he, rfl, rfl⟩
    rw [hnone] at this
    cases this
  · rintro rfl key
    refine Option.eq_none_iff_forall_ne_some.2 fun value hvalue => ?_
    obtain ⟨e, he, -⟩ := (h key value).1 hvalue
    cases he

theorem isEmpty_stringValues_iff (strings : SortedMap String String) :
    (stringValues strings).isEmpty = true ↔ strings.toList = [] := by
  rw [← List.isEmpty_iff]
  change _ ↔ strings.isEmpty = true
  rw [SortedMap.isEmpty_iff, SortedMap.isEmpty_iff]
  simp [get?_stringValues]

/-- What a section holds whose styles have been checked. -/
theorem isOf_section {e : ResourceSection} {styles : ResourceMap} (h : HoldsStyles styles e.styles) :
    ResourceSnapshot.IsOf ⟨languagesOf e.languages,
      .ofList (typed .style styles ++ typed .string (stringValues e.strings))⟩ e where
  styles key value := by
    rw [← h, ResourceSnapshot.value?, get?_typed, if_pos rfl]
    by_cases hempty : styles.isEmpty = true
    · simp [hempty, SortedMap.isEmpty_iff.1 hempty key]
    · simp [hempty]
  strings key value := by
    rw [ResourceSnapshot.value?, get?_typed, if_neg (by decide), if_pos rfl]
    have hget := get?_stringValues e.strings key
    by_cases hempty : (stringValues e.strings).isEmpty = true
    · rw [SortedMap.isEmpty_iff.1 hempty key, eq_comm, Option.map_eq_none_iff] at hget
      simp [hempty, hget]
    · simp [hempty, hget, eq_comm (a := value)]
  styles_eq_none_iff := by
    rw [get?_typed, if_pos rfl, ← h.isEmpty_iff]
    cases styles.isEmpty <;> simp
  strings_eq_none_iff := by
    rw [get?_typed, if_neg (by decide), if_pos rfl, ← isEmpty_stringValues_iff]
    cases (stringValues e.strings).isEmpty <;> simp
  others type hstyle hstring := by
    rw [get?_typed, if_neg hstyle, if_neg hstring]
  languages language := by
    rw [get?_languagesOf]
    cases e.languages.get? language with
    | none => exact .none
    | some regions => exact .some fun r => SortedSet.mem_ofList

theorem decides_section (part : SectionName) (e : ResourceSection) :
    Decides (ResourceSection.faults part (some e)) (·.IsOf e) (buildSection part e) := by
  rw [ResourceSection.faults, buildSection]
  have none_seen : ∀ n, (∅ : ResourceMap).contains n = true ↔ n ∈ ([] : List String) := by
    simp [SortedMap.contains]
  refine (decides_styles part none_seen e.styles).map fun styles hstyles => isOf_section fun key value => ?_
  simpa using hstyles key value

theorem decides_section? (part : SectionName) (e : Option ResourceSection) :
    Decides (ResourceSection.faults part e) (Option.Rel ResourceSnapshot.IsOf · e)
      (buildSection? part e) := by
  cases e with
  | none => exact ⟨rfl, .none⟩
  | some e => exact (decides_section part e).map fun s hs => .some hs

/-! ## Projects -/

theorem build_eq (f : ProjectFile) :
    build f = (buildDevices [] f.devices).bind fun devices =>
      (buildSection? .framework f.framework).bind fun framework =>
        (buildSection? .project f.project).map fun project =>
          ⟨devices, framework, project, none⟩ := by
  rw [build]
  cases buildDevices [] f.devices with
  | error fault => rfl
  | ok devices =>
    dsimp only [Except.bind]
    cases buildSection? .framework f.framework <;> rfl

theorem decides_build (f : ProjectFile) : Decides f.faults (·.IsOf f) (build f) := by
  rw [build_eq, ProjectFile.faults]
  refine (decides_devices (fun n => Iff.rfl) f.devices).bind fun devices hdevices => ?_
  refine (decides_section? .framework f.framework).bind fun framework hframework => ?_
  refine (decides_section? .project f.project).map fun project hproject => ?_
  exact ⟨hdevices, hframework, hproject, rfl⟩

/-- A file gives a snapshot exactly if it is sound. Otherwise the first of its faults is reported.
A snapshot holds what its file says, in the same order, and nothing else. -/
theorem build_exact (f : ProjectFile) :
    ((∃ s, build f = .ok s) ↔ f.IsSound) ∧
      (∀ fault, build f = .error fault ↔ f.faults.head? = some fault) ∧
      ∀ s, build f = .ok s → s.IsOf f := by
  refine ⟨?_, (decides_build f).eq_error_iff, fun s => (decides_build f).of_eq_ok⟩
  rw [(decides_build f).exists_ok_iff, f.faults_eq_nil_iff]

theorem exists_entry_of_isOf {s : ProjectSnapshot} {f : ProjectFile} (h : s.IsOf f) {d : Device}
    (hd : d ∈ s.devices) : ∃ e ∈ f.devices, d.IsOf e := by
  obtain ⟨i, hi, rfl⟩ := List.getElem_of_mem hd
  have hi' : i < f.devices.length := h.devices.length_eq ▸ hi
  exact ⟨f.devices[i], List.getElem_mem hi', h.devices.get hi hi'⟩

/-- The devices of a snapshot come from sound entries. -/
theorem exists_sound_entry {f : ProjectFile} {s : ProjectSnapshot} (h : build f = .ok s)
    {d : Device} (hd : d ∈ s.devices) : ∃ e : DeviceEntry, d.IsOf e ∧ e.IsSound := by
  have hsound : f.IsSound :=
    f.faults_eq_nil_iff.mp ((decides_build f).exists_ok_iff.mp ⟨s, h⟩)
  obtain ⟨e, he, hof⟩ := exists_entry_of_isOf ((decides_build f).of_eq_ok h) hd
  exact ⟨e, hof, hsound.devices e he⟩

/-- Every device of a snapshot has a variant. -/
theorem variants_ne_nil_of_build {f : ProjectFile} {s : ProjectSnapshot} (h : build f = .ok s)
    {d : Device} (hd : d ∈ s.devices) : d.variants ≠ [] := by
  obtain ⟨e, hof, hsound⟩ := exists_sound_entry h hd
  intro hnil
  have hvariants := hof.variants
  rw [hnil, List.forall₂_nil_left_iff] at hvariants
  exact hsound.variants_ne_nil hvariants

/-- No device of a snapshot has two variants of the same name. -/
theorem nodup_variantNames_of_build {f : ProjectFile} {s : ProjectSnapshot} (h : build f = .ok s)
    {d : Device} (hd : d ∈ s.devices) : d.variantNames.Nodup := by
  obtain ⟨e, hof, hsound⟩ := exists_sound_entry h hd
  have hnames : d.variantNames = e.variants.map VariantEntry.name := by
    unfold Device.variantNames
    rw [← List.forall₂_eq_eq_eq, List.forall₂_map_left_iff, List.forall₂_map_right_iff]
    exact hof.variants.imp fun _ _ hv => hv.name
  rw [hnames]
  exact hsound.nodup

/-- Two devices, the second with a variant and qualifiers that may be at fault, and two styles. -/
def twoDevices (variant qualifiers style : String) : ProjectFile where
  devices := [⟨"Phone", none, none, [⟨"Portrait", "port"⟩]⟩,
    ⟨"Tablet", none, none, [⟨"Portrait", qualifiers⟩, ⟨variant, "land"⟩]⟩]
  framework := some ⟨[⟨"Theme", none⟩, ⟨style, some "Theme"⟩], ∅, ∅⟩
  project := none

/-- Of three faults the one that stands first is reported; without them there is a snapshot. -/
theorem build_exact_of_two_devices :
    build (twoDevices "Portrait" "gigantic" "Theme") =
        .error (.invalidQualifiers "Tablet" "Portrait" (.unrecognized "gigantic")) ∧
      ∃ s, build (twoDevices "Landscape" "port" "Theme.Light") = .ok s ∧
        s.IsOf (twoDevices "Landscape" "port" "Theme.Light") := by
  refine ⟨((build_exact _).2.1 _).2 (by decide +kernel), ?_⟩
  have sound : (twoDevices "Landscape" "port" "Theme.Light").IsSound :=
    (ProjectFile.faults_eq_nil_iff _).1 (by decide +kernel)
  obtain ⟨s, hs⟩ := (build_exact _).1.2 sound
  exact ⟨s, hs, (build_exact _).2.2 s hs⟩

end ProjectSnapshot

end ConfigBar
