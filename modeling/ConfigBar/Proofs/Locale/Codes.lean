import ConfigBar.Locale.Catalog
import ConfigBar.Proofs.Qualifier.Shape
/-!
# Locales of codes

A language is a code if it has two small letters, a region if it has two capital ones. A locale that
is typed is read only if both are codes; the locales of a project are as its table of languages has
them.

* `Locale.hasCodes_of_parse` — typed locales
* `Locale.parse_label` — the label of a locale of codes is read back, with any blanks around it
* `LocaleCatalog.hasCodes_of_mem` — from a table of codes come entries of codes, the sentinel apart
-/

namespace ConfigBar

/-! ## Typed locales -/

namespace Locale

/-- Are the language and the region codes, as far as they are there? -/
def hasCodes (l : Locale) : Bool := isLanguageCode l.language && l.region.all isRegionCode

theorem hasCodes_of_ofCodes? {language : String} {region : Option String} {l : Locale}
    (h : ofCodes? language region = some l) : l.hasCodes = true := by
  unfold ofCodes? at h
  split at h
  · next hcodes =>
    cases h
    exact hcodes
  · cases h

/-- A typed locale has codes. -/
theorem hasCodes_of_parse {text : String} {l : Locale} (h : parse text = .ok l) :
    l.hasCodes = true := by
  unfold parse at h
  split at h
  · next l' hread =>
    cases h
    unfold ofTrimmed? at hread
    split at hread
    · exact hasCodes_of_ofCodes? hread
    · exact hasCodes_of_ofCodes? hread
  · cases h

/-- The characters of a label: letters, and an underscore before a region. -/
theorem toList_label (l : Locale) :
    l.label.toList = l.language.toList ++ l.region.elim [] fun r => '_' :: r.toList := by
  unfold label
  cases l.region <;> simp

theorem isLower_of_mem_language {l : Locale} (h : l.hasCodes = true) {c : Char}
    (hc : c ∈ l.language.toList) : c.isLower = true := by
  obtain ⟨a, b, hs, ha, hb⟩ := isLanguageCode_iff.mp (Bool.and_eq_true_iff.mp h).1
  have hpair : c = a ∨ c = b := by simpa [hs] using hc
  rcases hpair with rfl | rfl
  · exact ha
  · exact hb

theorem isUpper_of_mem_region {l : Locale} (h : l.hasCodes = true) {r : String}
    (hr : l.region = some r) {c : Char} (hc : c ∈ r.toList) : c.isUpper = true := by
  have hregion := (Bool.and_eq_true_iff.mp h).2
  rw [hr] at hregion
  obtain ⟨a, b, hs, ha, hb⟩ := isRegionCode_iff.mp hregion
  have hpair : c = a ∨ c = b := by simpa [hs] using hc
  rcases hpair with rfl | rfl
  · exact ha
  · exact hb

theorem isBlank_of_mem_label {l : Locale} (h : l.hasCodes = true) {c : Char}
    (hc : c ∈ l.label.toList) : Text.isBlank c = false := by
  rw [toList_label] at hc
  rcases List.mem_append.mp hc with hc | hc
  · exact Text.isBlank_of_isLower (isLower_of_mem_language h hc)
  · cases hr : l.region with
    | none =>
      rw [hr] at hc
      cases hc
    | some r =>
      rw [hr] at hc
      rcases List.mem_cons.mp hc with rfl | hc
      · decide
      · exact Text.isBlank_of_isUpper (isUpper_of_mem_region h hr hc)

theorem ofTrimmed?_label {l : Locale} (h : l.hasCodes = true) :
    ofTrimmed? l.label.toList = some l := by
  have hlanguage : '_' ∉ l.language.toList := fun hc => by
    cases isLower_of_mem_language h hc
  obtain ⟨language, region⟩ := l
  unfold ofTrimmed?
  rw [toList_label]
  cases region with
  | none =>
    rw [Text.cut?_eq_none (by simpa using hlanguage)]
    simpa [ofCodes?, hasCodes] using h
  | some r =>
    have hcut : Text.cut? '_' (language.toList ++ '_' :: r.toList) =
        some (language.toList, r.toList) := Text.cut?_eq_some_iff.mpr ⟨rfl, hlanguage⟩
    simpa [hcut, ofCodes?, hasCodes] using h

/-- A locale of codes is read from its label, with any blanks around it. -/
theorem parse_label {l : Locale} (h : l.hasCodes = true) {front back : String}
    (hf : ∀ c ∈ front.toList, Text.isBlank c = true)
    (hb : ∀ c ∈ back.toList, Text.isBlank c = true) :
    parse (front ++ l.label ++ back) = .ok l := by
  unfold parse
  rw [String.toList_append, String.toList_append,
    Text.trimChars_padded hf (fun c hc => isBlank_of_mem_label h hc) hb, ofTrimmed?_label h]

end Locale

/-! ## The locales of a project -/

/-- Are the language and the region of an entry codes? Those of the sentinel are not. -/
def LocaleEntry.hasCodes (e : LocaleEntry) : Bool :=
  isLanguageCode e.language && e.region.all isRegionCode

/-- Are the languages of a table and their regions codes? -/
def Languages.hasCodes (languages : Languages) : Bool :=
  languages.toList.all fun l => isLanguageCode l.1 && l.2.toList.all isRegionCode

namespace LocaleCatalog

variable {languages : Languages}

theorem hasCodes_of_mem_locales (h : languages.hasCodes = true) {l : Locale}
    (hl : l ∈ locales languages) : l.hasCodes = true := by
  obtain ⟨⟨language, regions⟩, hmem, hl⟩ := List.mem_flatMap.mp hl
  have hcodes := List.all_eq_true.mp h _ hmem
  rw [Bool.and_eq_true] at hcodes
  obtain ⟨hlanguage, hregions⟩ := hcodes
  unfold Locale.hasCodes
  rcases List.mem_cons.mp hl with rfl | hl
  · rw [hlanguage]
    rfl
  · obtain ⟨region, hregion, rfl⟩ := List.mem_map.mp hl
    rw [hlanguage]
    exact List.all_eq_true.mp hregions region hregion

/-- The locales of a table of codes are codes. The sentinel comes on top of them. -/
theorem hasCodes_of_mem_ofLanguages (h : languages.hasCodes = true) {e : LocaleEntry}
    (he : e ∈ (ofLanguages languages).entries) (hs : e.isSentinel = false) : e.hasCodes = true := by
  rcases List.mem_append.mp he with he | he
  · obtain ⟨l, hl, rfl⟩ := List.mem_map.mp he
    exact hasCodes_of_mem_locales h hl
  · cases List.mem_singleton.mp he
    cases hs

/-- The name of the sentinel is no code. -/
theorem sentinel_not_mem_of_hasCodes (h : languages.hasCodes = true) :
    localeSentinel ∉ languages.toList.map Prod.fst := by
  intro hmem
  obtain ⟨e, he, hsentinel⟩ := List.mem_map.mp hmem
  have hcode := (Bool.and_eq_true_iff.mp (List.all_eq_true.mp h e he)).1
  rw [hsentinel] at hcode
  exact absurd hcode (by decide)

/-- In the catalog of a project with a table of codes, every entry but the sentinel has codes. -/
theorem hasCodes_of_mem {project : Option Languages} (h : project.all Languages.hasCodes = true)
    {e : LocaleEntry} (he : e ∈ (ofProject project).entries) (hs : e.isSentinel = false) :
    e.hasCodes = true := by
  cases project with
  | some languages => exact hasCodes_of_mem_ofLanguages h he hs
  | none =>
    cases List.mem_singleton.mp he
    cases hs

end LocaleCatalog

end ConfigBar
