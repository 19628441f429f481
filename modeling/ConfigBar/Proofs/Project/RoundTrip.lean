import ConfigBar.Project.Format
import ConfigBar.Project.Snapshot
import ConfigBar.Proofs.Json.Layout
/-!
# Project files are read back

A project file without dots per inch is written in JSON so that reading gives it back: a resource
section that is absent stays absent, an empty one stays empty, a parent that is missing stays
missing, and regions keep their order and their repetitions.

* `Json.Denotes` — a JSON value that can be written, and in which a reader finds something
* `Denotes.list`, `Denotes.entries`, `Denotes.nullable`, `Denotes.record` — what it is made of
* `ProjectFile.denotes_toJson` — a project file, from its parts
* `ProjectFile.parse?_toJson` — the texts of a project file
-/

namespace ConfigBar

namespace Document

/-! ## Fields -/

theorem find?_of_nodup {es : List (String × Document)} (h : (es.map Prod.fst).Nodup)
    {e : String × Document} (he : e ∈ es) : (es.find? fun x => x.1 == e.1) = some e := by
  induction es with
  | nil => cases he
  | cons x es ih =>
    obtain ⟨hx, hes⟩ := List.nodup_cons.mp h
    rcases List.mem_cons.mp he with rfl | he
    · rw [List.find?_cons_of_pos (by simp)]
    · have hne : x.1 ≠ e.1 := fun heq => hx (heq ▸ List.mem_map_of_mem he)
      rw [List.find?_cons_of_neg (by simpa using hne), ih hes he]

/-- A table with just the named fields, in their order. -/
theorem fields?_table (isOpen : Bool) {es : List (String × Document)}
    (h : (es.map Prod.fst).Nodup) :
    fields? isOpen (es.map Prod.fst) (.table es) = some (es.map fun e => some e.2) := by
  have hknown : (es.all fun e => (es.map Prod.fst).contains e.1) = true := by
    rw [List.all_eq_true]
    exact fun e he => List.contains_iff_mem.mpr (List.mem_map_of_mem he)
  rw [fields?, if_pos ⟨h, hknown⟩, List.map_map]
  refine congrArg some (List.map_congr_left fun e he => ?_)
  rw [Function.comp, find?_of_nodup h he, Option.map_some]

@[simp] theorem ofJson?_str (s : String) : ofJson? (.str s) = some (.text s) := rfl

end Document

namespace Json

open Document (ofJson? ofItems? ofMembers? fields? nullable? list? entries?)

/-! ## Values in which something is found -/

/-- The value can be written, and the reader finds `a` in its document. -/
structure Denotes {α : Type} (read : Document → Option α) (j : Json) (a : α) : Prop where
  writable : Writable j
  exists_document : ∃ d, ofJson? j = some d ∧ read d = some a

variable {α : Type} {read : Document → Option α} {f : α → Json}

theorem exists_ofItems? {as : List α} (h : ∀ a ∈ as, Denotes read (f a) a) :
    ∃ ds, ofItems? (as.map f) = some ds ∧ ds.mapM read = some as := by
  induction as with
  | nil => exact ⟨[], rfl, rfl⟩
  | cons a as ih =>
    obtain ⟨d, hd, hread⟩ := (h a List.mem_cons_self).exists_document
    obtain ⟨ds, hds, hreads⟩ := ih fun b hb => h b (List.mem_cons_of_mem a hb)
    exact ⟨d :: ds, by simp [ofItems?, hd, hds], by simp [hread, hreads]⟩

theorem exists_ofMembers? {es : List (String × α)} (h : ∀ e ∈ es, Denotes read (f e.2) e.2) :
    ∃ ds, ofMembers? (es.map fun e => (some e.1, f e.2)) = some ds ∧
      (ds.mapM fun d => (read d.2).map fun a => (d.1, a)) = some es := by
  induction es with
  | nil => exact ⟨[], rfl, rfl⟩
  | cons e es ih =>
    obtain ⟨d, hd, hread⟩ := (h e List.mem_cons_self).exists_document
    obtain ⟨ds, hds, hreads⟩ := ih fun x hx => h x (List.mem_cons_of_mem e hx)
    exact ⟨(e.1, d) :: ds, by simp [ofMembers?, hd, hds], by simp [hread, hreads]⟩

/-- The table of an object whose values have documents. -/
theorem exists_entries {ms : List (String × Json)} {ds : List Document}
    (h : ms.map (fun m => ofJson? m.2) = ds.map some) :
    ∃ es, ofMembers? (ms.map fun m => (some m.1, m.2)) = some es ∧
      es.map Prod.fst = ms.map Prod.fst ∧ es.map Prod.snd = ds := by
  induction ms generalizing ds with
  | nil => exact ⟨[], rfl, rfl, (List.map_eq_nil_iff.mp h.symm).symm⟩
  | cons m ms ih =>
    cases ds with
    | nil => cases h
    | cons d ds =>
      obtain ⟨hd, hds⟩ := List.cons.inj h
      obtain ⟨es, hes, hkeys, hvalues⟩ := ih hds
      exact ⟨(m.1, d) :: es, by simp [ofMembers?, hd, hes], by simp [hkeys], by simp [hvalues]⟩

namespace Denotes

theorem text (s : String) : Denotes Document.text? (.str s) s := ⟨.string s, .text s, rfl, rfl⟩

theorem list (as : List α) (h : ∀ a ∈ as, Denotes read (f a) a) :
    Denotes (list? read) (.array (as.map f)) as := by
  obtain ⟨ds, hds, hreads⟩ := exists_ofItems? h
  exact ⟨writable_array_map fun a ha => (h a ha).writable, .list ds, by simp [ofJson?, hds], hreads⟩

theorem texts (ss : List String) : Denotes (list? Document.text?) (.strs ss) ss :=
  .list ss fun s _ => .text s

theorem entries (es : List (String × α)) (h : ∀ e ∈ es, Denotes read (f e.2) e.2) :
    Denotes (entries? read) (.obj (es.map fun e => (e.1, f e.2))) es := by
  obtain ⟨ds, hds, hreads⟩ := exists_ofMembers? h
  refine ⟨writable_obj (List.forall_mem_map.mpr fun e he => (h e he).writable), .table ds, ?_, hreads⟩
  simp [obj, ofJson?, Function.comp_def, hds]

/-- What is missing is null, as long as nothing else is. -/
theorem nullable (o : Option α) (h : ∀ a ∈ o, Denotes read (f a) a) (hnull : read .null = none) :
    Denotes (nullable? read) (.opt f o) o := by
  have hw : Writable (.opt f o) := writable_opt fun a ha => (h a ha).writable
  cases o with
  | none => exact ⟨hw, .null, rfl, rfl⟩
  | some a =>
    obtain ⟨-, d, hd, hread⟩ := h a rfl
    refine ⟨hw, d, hd, ?_⟩
    cases d with
    | null => rw [hnull] at hread; cases hread
    | _ => rw [nullable?, hread, Option.map_some]; nofun

/-- A record is read from the values of its fields, in their order. -/
theorem record (isOpen : Bool) (ds : List Document) {ms : List (String × Json)} {a : α}
    (hnames : (ms.map Prod.fst).Nodup) (hw : ∀ m ∈ ms, Writable m.2)
    (hds : ms.map (fun m => ofJson? m.2) = ds.map some)
    (hread : ∀ d, fields? isOpen (ms.map Prod.fst) d = some (ds.map some) → read d = some a) :
    Denotes read (.obj ms) a := by
  obtain ⟨es, hes, hkeys, hvalues⟩ := exists_entries hds
  refine ⟨writable_obj hw, .table es, by rw [obj, ofJson?, hes, Option.map_some], hread _ ?_⟩
  rw [← hkeys, Document.fields?_table isOpen (hkeys ▸ hnames), ← hvalues, List.map_map]
  rfl

end Denotes

end Json

/-! ## The parts of a project file -/

open Json (Denotes)
open Document (text? number? orDefault)

theorem VariantEntry.denotes_toJson (v : VariantEntry) :
    Denotes (VariantEntry.ofDocument? false) v.toJson v := by
  refine .record false [.text v.name, .text v.qualifiers] (by simp) ?_ rfl fun d hd => ?_
  · simp
  · simp only [List.map_cons, List.map_nil] at hd
    simp [VariantEntry.ofDocument?, hd, orDefault, text?]

theorem DeviceEntry.denotes_toJson {d : DeviceEntry} (hx : d.xdpi = none) (hy : d.ydpi = none) :
    Denotes (DeviceEntry.ofDocument? false) d.toJson d := by
  obtain ⟨hwdpi, dpi, hdpi, hreadDpi⟩ :=
    Denotes.nullable (f := Json.ofSingle) none nofun (show number? .null = none from rfl)
  obtain ⟨hwvariants, variants, hvariants, hreadVariants⟩ :=
    Denotes.list d.variants fun v _ => VariantEntry.denotes_toJson v
  obtain ⟨name, xdpi, ydpi, configs⟩ := d
  cases hx
  cases hy
  refine .record false [.text name, dpi, dpi, variants] (by simp) ?_ ?_ fun d hd => ?_
  · simp [hwdpi, hwvariants]
  · simp [hdpi, hvariants]
  · simp only [List.map_cons, List.map_nil] at hd
    simp [DeviceEntry.ofDocument?, hd, orDefault, text?, hreadDpi, hreadVariants]

theorem StyleEntry.denotes_toJson (s : StyleEntry) :
    Denotes (StyleEntry.ofDocument? false) s.toJson s := by
  obtain ⟨hw, parent, hparent, hread⟩ :=
    Denotes.nullable s.parent (fun p _ => Denotes.text p) rfl
  refine .record false [.text s.name, parent] (by simp) ?_ ?_ fun d hd => ?_
  · simp [hw]
  · simp [hparent]
  · simp only [List.map_cons, List.map_nil] at hd
    simp [StyleEntry.ofDocument?, hd, orDefault, text?, hread]

theorem ResourceSection.denotes_toJson (s : ResourceSection) :
    Denotes (ResourceSection.ofDocument? false) s.toJson s := by
  obtain ⟨hwstyles, styles, hstyles, hreadStyles⟩ :=
    Denotes.list s.styles fun v _ => StyleEntry.denotes_toJson v
  obtain ⟨hwstrings, strings, hstrings, hreadStrings⟩ :=
    Denotes.entries s.strings.toList fun e _ => Denotes.text e.2
  obtain ⟨hwlanguages, languages, hlanguages, hreadLanguages⟩ :=
    Denotes.entries s.languages.toList fun e _ => Denotes.texts e.2
  refine .record false [styles, strings, languages] (by simp) ?_ ?_ fun d hd => ?_
  · simp [hwstyles, hwstrings, hwlanguages]
  · simp [hstyles, hstrings, hlanguages]
  · simp only [List.map_cons, List.map_nil] at hd
    simp [ResourceSection.ofDocument?, hd, orDefault, hreadStyles, hreadStrings, hreadLanguages,
      SortedMap.ofList_toList]

/-- A file whose devices name no dots per inch. -/
def ProjectFile.NamesNoDpi (f : ProjectFile) : Prop :=
  ∀ d ∈ f.devices, d.xdpi = none ∧ d.ydpi = none

theorem ProjectFile.denotes_toJson {f : ProjectFile} (h : f.NamesNoDpi) :
    Denotes (ProjectFile.ofDocument? false) f.toJson f := by
  obtain ⟨hwdevices, devices, hdevices, hreadDevices⟩ :=
    Denotes.list f.devices fun d hd => DeviceEntry.denotes_toJson (h d hd).1 (h d hd).2
  obtain ⟨hwframework, framework, hframework, hreadFramework⟩ :=
    Denotes.nullable f.framework (fun s _ => ResourceSection.denotes_toJson s) rfl
  obtain ⟨hwproject, project, hproject, hreadProject⟩ :=
    Denotes.nullable f.project (fun s _ => ResourceSection.denotes_toJson s) rfl
  refine .record false [devices, framework, project] (by simp) ?_ ?_ fun d hd => ?_
  · simp [hwdevices, hwframework, hwproject]
  · simp [hdevices, hframework, hproject]
  · simp only [List.map_cons, List.map_nil] at hd
    simp [ProjectFile.ofDocument?, hd, orDefault, hreadDevices, hreadFramework, hreadProject]

/-! ## The texts of a project file -/

theorem ProjectFile.parse?_of_denotes {f : ProjectFile} {j : Json}
    (h : Denotes (ProjectFile.ofDocument? false) j f) {text : String}
    (ht : Json.parse? text = some j) : parse? .json text = some f := by
  obtain ⟨-, d, hd, hread⟩ := h
  rw [parse?, ht, Option.bind_some, hd, Option.bind_some, hread]

/-- **A project file without dots per inch is read back from JSON.** Every text of its JSON value is
read as just this file. Such are both layouts in which the value is written, without blanks and on
indented lines; so what is built of them is what is built of the file. -/
theorem ProjectFile.parse?_toJson {f : ProjectFile} (h : f.NamesNoDpi) :
    (∀ text, Json.parse? text = some f.toJson → parse? .json text = some f) ∧
      ∀ text ∈ [f.toJson.compress, f.toJson.pretty],
        parse? .json text = some f ∧
          (parse? .json text).map ProjectSnapshot.build = some (ProjectSnapshot.build f) := by
  have hdenotes := denotes_toJson h
  have hparse : ∀ text, Json.parse? text = some f.toJson → parse? .json text = some f :=
    fun _ => parse?_of_denotes hdenotes
  refine ⟨hparse, fun text ht => ?_⟩
  have hvalue : Json.parse? text = some f.toJson := by
    rcases List.mem_cons.mp ht with rfl | ht
    · exact Json.parse?_compress hdenotes.writable
    · rw [List.mem_singleton.mp ht]
      exact Json.parse?_pretty hdenotes.writable
  rw [hparse text hvalue]
  exact ⟨rfl, rfl⟩

/-- A file with an empty section and none, with names that need escapes, with a parent that is empty
and one that is missing, and with a repeated region. -/
def escapedFile : ProjectFile where
  devices := [⟨"7\"\\", none, none, [⟨"\x01\t", "port"⟩, ⟨"é😀", ""⟩]⟩, ⟨"", none, none, []⟩]
  framework := none
  project := some {
    styles := [⟨"Theme", none⟩, ⟨"Mine", some ""⟩]
    strings := .ofList [("title", "a\nb"), ("", "/")]
    languages := .ofList [("fr", []), ("en", ["US", "GB", "US"])] }

theorem ProjectFile.parse?_toJson_of_escapes :
    escapedFile.NamesNoDpi ∧ parse? .json escapedFile.toJson.compress = some escapedFile ∧
      parse? .json { escapedFile with framework := some ⟨[], ∅, ∅⟩ }.toJson.pretty =
        some { escapedFile with framework := some ⟨[], ∅, ∅⟩ } := by
  have hnone : escapedFile.NamesNoDpi := by simp [NamesNoDpi, escapedFile]
  have hnone' : { escapedFile with framework := some ⟨[], ∅, ∅⟩ }.NamesNoDpi := hnone
  exact ⟨hnone, ((parse?_toJson hnone).2 _ (by simp)).1, ((parse?_toJson hnone').2 _ (by simp)).1⟩

end ConfigBar
