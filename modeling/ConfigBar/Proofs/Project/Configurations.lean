import ConfigBar.Proofs.Controller.Performed
import ConfigBar.Proofs.Controller.Selections
import ConfigBar.Proofs.Locale.Codes
import ConfigBar.Proofs.Project.Validation
import ConfigBar.Proofs.Qualifier.FolderRoundTrip
/-!
# Configurations of loaded projects

The effective configuration has a folder name that is read back if its language and its region are
codes. They come from typed locales, which are checked, and from the locales of the project, which
are not: a project may list any names as languages. So the configurations of a loaded project are
well-formed as long as the locales are that are selected.

* `hasCodes_after` — what a single request makes of the language and the region
* `ProjectSnapshot.hasCodes_languages` — the table of languages of a loaded project
* `ProjectSnapshot.ofFolder_of_reachableBy` — the configurations in the course of a program
-/

namespace ConfigBar

namespace Resolver

/-- Whether the configuration has codes is a matter of its locale. -/
theorem hasCodes_congr {r s : Resolver} (h : r.locale = s.locale) :
    r.current.hasCodes = s.current.hasCodes := by
  obtain ⟨hlanguage, hregion⟩ := Prod.mk.inj h
  simp only [QualifierSet.hasCodes, hlanguage, hregion]

theorem hasCodes_applyLocale (r : Resolver) (language : String) (region : Option String) :
    (r.applyLocale (some (.language language)) (region.map .region)).current.hasCodes =
      (isLanguageCode language && region.all isRegionCode) := by
  obtain ⟨hlanguage, hregion⟩ := Prod.mk.inj (r.locale_applyLocale language region)
  rw [QualifierSet.hasCodes, hlanguage, hregion]
  rfl

end Resolver

namespace Controller

variable {c : Controller} {r : Request} {p : Provider}

/-- The entry of the locale that a request selects. In a rebuild it selects none. -/
def selectedLocale? (c : Controller) : Request → Option LocaleEntry
  | .selectLocale i => if c.isRebuilding then none else c.locales.get? i
  | _ => none

/-- A request hands in no other provider than the given one, and selects no other locales than the
given ones. -/
structure KeepsTo (p : Provider) (selectable : LocaleEntry → Bool) (c : Controller) (r : Request) :
    Prop where
  provider : ∀ q ∈ r.provider?, q = p
  locale : ∀ e ∈ c.selectedLocale? r, selectable e = true

instance (p : Provider) (selectable : LocaleEntry → Bool) (c : Controller) (r : Request) :
    Decidable (KeepsTo p selectable c r) :=
  decidable_of_iff ((∀ q ∈ r.provider?, q = p) ∧ ∀ e ∈ c.selectedLocale? r, selectable e = true)
    ⟨fun h => ⟨h.1, h.2⟩, fun h => ⟨h.provider, h.locale⟩⟩

/-! ## The effective locale -/

/-- A locale of codes leaves a configuration with codes, and other requests leave the locale
alone. -/
theorem hasCodes_after (h : c.resolver.current.hasCodes = true)
    (hs : ∀ e ∈ c.selectedLocale? r, e.hasCodes = true) :
    (c.after r).resolver.current.hasCodes = true := by
  cases r with
  | selectLocale i =>
    simp only [after, resolverOps]
    cases he : c.locales.get? i with
    | none => exact h
    | some e =>
      cases hopen : c.isRebuilding with
      | true => exact h
      | false =>
        have hselected : c.selectedLocale? (.selectLocale i) = some e := by
          rw [selectedLocale?, hopen, he]
          rfl
        exact (c.resolver.hasCodes_applyLocale e.language e.region).trans (hs e hselected)
  | typeLocale text =>
    simp only [after, resolverOps]
    cases hl : Locale.parse text with
    | error e => exact h
    | ok l =>
      exact (c.resolver.hasCodes_applyLocale l.language l.region).trans
        (Locale.hasCodes_of_parse hl)
  | _ => exact (Resolver.hasCodes_congr (locale_after rfl)).trans h

/-- As long as only locales of codes are selected, the configuration has codes. -/
theorem hasCodes_of_reachableBy (h : ReachableBy (KeepsTo p LocaleEntry.hasCodes) c) :
    c.resolver.current.hasCodes = true := by
  refine h.invariant (I := fun c => c.resolver.current.hasCodes = true) ?_ (fun _ _ => rfl) ?_
  · rintro a b hab ha
    rwa [hab.resolver_eq]
  · intro c r hr hkeeps hc
    rw [resolver_step hr]
    exact hasCodes_after hc hkeeps.locale

/-! ## The locales to choose from -/

/-- The locales are those of the provider, or none have been taken over yet. -/
def OffersLocales (p : Provider) (c : Controller) : Prop :=
  c.locales = .ofProject p.project ∨ c.locales = .ofProject none

theorem offersLocales_after (h : c.OffersLocales p)
    (hp : ∀ q ∈ r.provider?, q = p) : (c.after r).OffersLocales p := by
  cases hprovider : r.provider? with
  | none =>
    unfold OffersLocales
    rw [locales_after hprovider]
    exact h
  | some q =>
    obtain rfl := hp q hprovider
    cases r with
    | start q | updateResources q => cases hprovider; exact Or.inl rfl
    | reloadDevices q => exact h
    | _ => cases hprovider

/-- An entry that is offered has codes if the languages of the provider are codes, or it is the
sentinel. -/
theorem OffersLocales.hasCodes (h : c.OffersLocales p)
    (hp : p.project.all Languages.hasCodes = true) {e : LocaleEntry}
    (he : e ∈ c.locales.entries) (hs : e.isSentinel = false) : e.hasCodes = true := by
  rcases h with h | h
  · rw [h] at he
    exact LocaleCatalog.hasCodes_of_mem hp he hs
  · rw [h] at he
    exact LocaleCatalog.hasCodes_of_mem rfl he hs

theorem mem_entries_of_selectedLocale? {e : LocaleEntry} (h : c.selectedLocale? r = some e) :
    e ∈ c.locales.entries := by
  cases r with
  | selectLocale i => exact List.mem_of_getElem? (Option.ite_none_left_eq_some.mp h).2
  | _ => cases h

/-- If the languages of the provider are codes, only the sentinel must not be selected. -/
theorem hasCodes_of_reachableBy_languages (hp : p.project.all Languages.hasCodes = true)
    (h : ReachableBy (KeepsTo p fun e => !e.isSentinel) c) :
    c.resolver.current.hasCodes = true := by
  -- what can be selected is decided by the locales that were taken over, so these come along
  suffices c.resolver.current.hasCodes = true ∧ c.OffersLocales p from this.1
  refine h.invariant (I := fun c => c.resolver.current.hasCodes = true ∧ c.OffersLocales p) ?_
    (fun _ _ => ⟨rfl, Or.inr rfl⟩) ?_
  · rintro a _ ⟨d, q, rfl⟩ ha
    exact ha
  · rintro c r hr hkeeps ⟨hcodes, hoffers⟩
    have hafter : (c.after r).resolver.current.hasCodes = true ∧ (c.after r).OffersLocales p := by
      refine ⟨hasCodes_after hcodes fun e he => ?_, offersLocales_after hoffers hkeeps.provider⟩
      have hsentinel : e.isSentinel = false := by simpa using hkeeps.locale e he
      exact hoffers.hasCodes hp (mem_entries_of_selectedLocale? he) hsentinel
    obtain ⟨d, q, hstep⟩ := alike_after c hr
    rw [hstep]
    exact hafter

end Controller

/-! ## Loaded projects -/

/-- Are the languages of a section and their regions codes? -/
def ResourceSection.hasLocaleCodes (e : ResourceSection) : Bool :=
  e.languages.toList.all fun l => isLanguageCode l.1 && l.2.all isRegionCode

/-- Are the languages of the project and their regions codes? Checking a file does not ask. -/
def ProjectFile.hasLocaleCodes (f : ProjectFile) : Bool :=
  f.project.all ResourceSection.hasLocaleCodes

theorem ResourceSnapshot.IsOf.hasCodes {s : ResourceSnapshot} {e : ResourceSection} (h : s.IsOf e)
    (he : e.hasLocaleCodes = true) : Languages.hasCodes s.languages = true := by
  refine List.all_eq_true.mpr fun ⟨language, regions⟩ hmem => ?_
  -- the section lists the regions of the language, in some order
  have hrel := h.languages language
  rw [SortedMap.get?_eq_some_iff.mpr hmem] at hrel
  cases hlisted : e.languages.get? language with
  | none =>
    rw [hlisted] at hrel
    cases hrel
  | some listed =>
    rw [hlisted] at hrel
    cases hrel with
    | some hregions =>
      have hcodes := List.all_eq_true.mp he _ (SortedMap.get?_eq_some_iff.mp hlisted)
      rw [Bool.and_eq_true] at hcodes ⊢
      refine ⟨hcodes.1, List.all_eq_true.mpr fun region hregion => ?_⟩
      exact List.all_eq_true.mp hcodes.2 region ((hregions region).mp hregion)

namespace ProjectSnapshot

open Controller (ReachableBy KeepsTo)

variable {f : ProjectFile} {s : ProjectSnapshot}

/-- The languages of a file come into the snapshot as they are. -/
theorem hasCodes_languages (h : s.IsOf f) (hf : f.hasLocaleCodes = true) :
    s.provider.project.all Languages.hasCodes = true := by
  have hrel := h.project
  unfold ProjectFile.hasLocaleCodes at hf
  unfold provider
  cases hp : s.project with
  | none => rfl
  | some snapshot =>
    rw [hp] at hrel
    cases hrel' : f.project with
    | none =>
      rw [hrel'] at hrel
      cases hrel
    | some e =>
      rw [hrel'] at hrel hf
      cases hrel with
      | some hof => exact hof.hasCodes hf

/-- **Configurations of loaded projects are read back from their folder names**, in the course of
every program that takes over nothing but the project, as long as no locale is selected whose
language or region is not a code. If all languages and regions of the project are codes, this only
leaves the sentinel. -/
theorem ofFolder_of_reachableBy (h : build f = .ok s) :
    (∀ c, ReachableBy (KeepsTo s.provider LocaleEntry.hasCodes) c →
        QualifierSet.ofFolder (c.resolver.current.folder?.getD "") = .ok c.resolver.current) ∧
      (f.hasLocaleCodes = true → ∀ c, ReachableBy (KeepsTo s.provider fun e => !e.isSentinel) c →
        QualifierSet.ofFolder (c.resolver.current.folder?.getD "") = .ok c.resolver.current) := by
  refine ⟨fun c hc => ?_, fun hf c hc => ?_⟩
  · exact QualifierSet.ofFolder_folder (Controller.hasCodes_of_reachableBy hc)
  · have hlanguages := hasCodes_languages ((decides_build f).of_eq_ok h) hf
    exact QualifierSet.ofFolder_folder
      (Controller.hasCodes_of_reachableBy_languages hlanguages hc)

/-- A file of a project with the given languages and their regions, and its snapshot. -/
def languageFile (languages : List (String × List String)) : ProjectFile :=
  ⟨[], none, some ⟨[], ∅, .ofList languages⟩⟩

def languageSnapshot (languages : List (String × List String)) : ProjectSnapshot :=
  ⟨[], none, some ⟨languagesOf (.ofList languages), ∅⟩, none⟩

theorem build_languageFile (languages : List (String × List String)) :
    build (languageFile languages) = .ok (languageSnapshot languages) := rfl

/-- A project is started in a rebuild that ignores the sentinel, and a locale of it is selected. -/
theorem ofFolder_of_reachableBy_of_listed_locale :
    let s := languageSnapshot [("en", ["US"])]
    let c := (Controller.initial true []).run
      [.rebuild [.start s.provider, .selectLocale 2] true, .selectLocale 1]
    c.resolver.current.folder? = some "en-rUS" ∧
      QualifierSet.ofFolder (c.resolver.current.folder?.getD "") = .ok c.resolver.current := by
  intro s c
  have hc : ReachableBy (KeepsTo s.provider fun e => !e.isSentinel) c :=
    (ReachableBy.initial true []).run (by decide +kernel)
  exact ⟨by decide +kernel,
    (ofFolder_of_reachableBy (build_languageFile _)).2 (by decide +kernel) c hc⟩

/-- Languages are not checked: one of capital letters is selected, and the folder name of the
configuration is not read back. -/
theorem ofFolder_eq_error_of_unchecked_language :
    let s := languageSnapshot [("EN", [])]
    let c := (Controller.initial true []).run [.start s.provider, .selectLocale 0]
    build (languageFile [("EN", [])]) = .ok s ∧
      ReachableBy (KeepsTo s.provider fun e => !e.isSentinel) c ∧
        QualifierSet.ofFolder (c.resolver.current.folder?.getD "") =
          .error (.unrecognized "EN") := by
  intro s c
  have hc : ReachableBy (KeepsTo s.provider fun e => !e.isSentinel) c :=
    (ReachableBy.initial true []).run (by decide +kernel)
  exact ⟨build_languageFile _, hc, by decide +kernel⟩

end ProjectSnapshot

end ConfigBar
