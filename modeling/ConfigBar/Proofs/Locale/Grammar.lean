import ConfigBar.Proofs.Locale.Codes
import ConfigBar.Proofs.Qualifier.Segment
/-!
# The grammar of typed locales

The text of a locale is a language, or a language and a region with one underscore between them
(`IsLabel`). Just such texts are read, with any blanks around them, and what is read has the text as
its label. The codes are those of the folder segments of languages and regions.

* `isLabel_iff` — the labels of locales of codes are the texts of the grammar
* `parse_eq_ok_iff` — a text is read as the locale of codes that it is the label of
* `ofSegment?_language`, `ofSegment?_region` — the codes are read back as folder segments
* `parse_exact` — all texts, those that are refused as well
-/

namespace ConfigBar.Locale

open Text

/-- Two small ASCII letters, behind which an underscore and two capital ones may stand. -/
inductive IsLabel : List Char → Prop where
  | language {a b : Char} : a.isLower = true → b.isLower = true → IsLabel [a, b]
  | region {a b c d : Char} : a.isLower = true → b.isLower = true → c.isUpper = true →
      d.isUpper = true → IsLabel [a, b, '_', c, d]

/-! ## Labels -/

theorem isLabel_label {l : Locale} (h : l.hasCodes = true) : IsLabel l.label.toList := by
  obtain ⟨hlanguage, hregion⟩ := Bool.and_eq_true_iff.mp h
  obtain ⟨a, b, hab, ha, hb⟩ := isLanguageCode_iff.mp hlanguage
  rw [toList_label, hab]
  cases hr : l.region with
  | none => exact .language ha hb
  | some r =>
    rw [hr] at hregion
    obtain ⟨c, d, hcd, hc, hd⟩ := isRegionCode_iff.mp hregion
    rw [Option.elim, hcd]
    exact .region ha hb hc hd

theorem exists_label_of_isLabel {cs : List Char} (h : IsLabel cs) :
    ∃ l : Locale, l.hasCodes = true ∧ l.label.toList = cs := by
  cases h with
  | @language a b ha hb =>
    have hlanguage : isLanguageCode (String.ofList [a, b]) = true :=
      isLanguageCode_iff.mpr ⟨a, b, String.toList_ofList, ha, hb⟩
    refine ⟨⟨String.ofList [a, b], none⟩, Bool.and_eq_true_iff.mpr ⟨hlanguage, rfl⟩, ?_⟩
    rw [toList_label, String.toList_ofList]
    rfl
  | @region a b c d ha hb hc hd =>
    have hlanguage : isLanguageCode (String.ofList [a, b]) = true :=
      isLanguageCode_iff.mpr ⟨a, b, String.toList_ofList, ha, hb⟩
    have hregion : isRegionCode (String.ofList [c, d]) = true :=
      isRegionCode_iff.mpr ⟨c, d, String.toList_ofList, hc, hd⟩
    refine ⟨⟨String.ofList [a, b], some (String.ofList [c, d])⟩,
      Bool.and_eq_true_iff.mpr ⟨hlanguage, hregion⟩, ?_⟩
    rw [toList_label, String.toList_ofList, Option.elim, String.toList_ofList]
    rfl

/-- The labels of locales of codes are the texts of the grammar. -/
theorem isLabel_iff {cs : List Char} :
    IsLabel cs ↔ ∃ l : Locale, l.hasCodes = true ∧ l.label.toList = cs := by
  refine ⟨exists_label_of_isLabel, ?_⟩
  rintro ⟨l, hl, rfl⟩
  exact isLabel_label hl

/-! ## Reading -/

theorem label_of_ofCodes? {language : String} {region : Option String} {l : Locale}
    (h : ofCodes? language region = some l) : l = ⟨language, region⟩ := by
  unfold ofCodes? at h
  split at h
  · exact (Option.some.inj h).symm
  · cases h

/-- What is read has the text as its label. -/
theorem label_of_ofTrimmed? {cs : List Char} {l : Locale} (h : ofTrimmed? cs = some l) :
    l.label.toList = cs := by
  unfold ofTrimmed? at h
  rw [toList_label]
  split at h
  · next language region hcut =>
    obtain ⟨hcs, -⟩ := cut?_eq_some_iff.mp hcut
    rw [label_of_ofCodes? h, hcs, String.toList_ofList, Option.elim, String.toList_ofList]
  · rw [label_of_ofCodes? h, String.toList_ofList, Option.elim, List.append_nil]

/-- A text is read as the locale of codes whose label it is, up to blanks around it. -/
theorem parse_eq_ok_iff {text : String} {l : Locale} :
    parse text = .ok l ↔ l.hasCodes = true ∧ l.label = trim text := by
  constructor
  · intro h
    refine ⟨hasCodes_of_parse h, String.toList_injective ?_⟩
    rw [toList_trim]
    unfold parse at h
    split at h
    · next hread =>
      cases h
      exact label_of_ofTrimmed? hread
    · cases h
  · rintro ⟨hcodes, hlabel⟩
    have hread := ofTrimmed?_label hcodes
    rw [hlabel, toList_trim] at hread
    unfold parse
    rw [hread]

/-- A text that is not read is refused with what stands between the blanks around it. -/
theorem parse_eq_error_iff {text : String} {e : InvalidLocale} :
    parse text = .error e ↔ (∀ l, parse text ≠ .ok l) ∧ e = ⟨trim text⟩ := by
  unfold parse
  cases ofTrimmed? (trimChars text.toList) with
  | some l => simp
  | none => simp [eq_comm]

/-- A text is read exactly if it belongs to the grammar, up to blanks around it. -/
theorem exists_parse_eq_ok_iff (text : String) :
    (∃ l, parse text = .ok l) ↔ IsLabel (trim text).toList := by
  rw [isLabel_iff]
  refine exists_congr fun l => ?_
  rw [parse_eq_ok_iff, String.toList_inj]

/-! ## Codes as folder segments -/

theorem ofSegment?_language {l : Locale} (h : l.hasCodes = true) :
    Qualifier.ofSegment? l.language = some (.language l.language) :=
  Qualifier.ofSegment?_segment (q := .language l.language) (Bool.and_eq_true_iff.mp h).1

theorem ofSegment?_region {l : Locale} (h : l.hasCodes = true) {r : String}
    (hr : r ∈ l.region) : Qualifier.ofSegment? ("r" ++ r) = some (.region r) := by
  have hregion := (Bool.and_eq_true_iff.mp h).2
  rw [Option.mem_def.mp hr] at hregion
  exact Qualifier.ofSegment?_segment (q := .region r) hregion

/-- **A text is read exactly if it belongs to the grammar of locales, up to blanks around it.** Its
core is then the label of what is read, and the codes are folder segments of a language and of a
region. Any other text is refused with its core. -/
theorem parse_exact (text : String) :
    let core := trim text
    IsCore core.toList text.toList ∧
      ((∃ l, parse text = .ok l) ↔ IsLabel core.toList) ∧
      (∀ l, parse text = .ok l → l.label = core ∧
        Qualifier.ofSegment? l.language = some (.language l.language) ∧
        ∀ r ∈ l.region, Qualifier.ofSegment? ("r" ++ r) = some (.region r)) ∧
      ∀ e, parse text = .error e ↔ ¬IsLabel core.toList ∧ e = ⟨core⟩ := by
  intro core
  refine ⟨?_, exists_parse_eq_ok_iff text, fun l hl => ?_, fun e => ?_⟩
  · rw [toList_trim]
    exact isCore_trimChars text.toList
  · obtain ⟨hcodes, hlabel⟩ := parse_eq_ok_iff.mp hl
    exact ⟨hlabel, ofSegment?_language hcodes, fun r hr => ofSegment?_region hcodes hr⟩
  · rw [parse_eq_error_iff, ← exists_parse_eq_ok_iff, not_exists]

/-- A region, and blanks of several kinds. -/
theorem parse_exact_of_blanks :
    let l : Locale := ⟨"fr", some "CA"⟩
    parse "\u00a0fr_CA\u3000 \n" = .ok l ∧ l.label = trim "\u00a0fr_CA\u3000 \n" ∧
      Qualifier.ofSegment? "fr" = some (.language "fr") ∧
      Qualifier.ofSegment? "rCA" = some (.region "CA") := by
  intro l
  have hparse : parse "\u00a0fr_CA\u3000 \n" = .ok l := by decide
  obtain ⟨-, -, hok, -⟩ := parse_exact "\u00a0fr_CA\u3000 \n"
  obtain ⟨hlabel, hlanguage, hregion⟩ := hok l hparse
  exact ⟨hparse, hlabel, hlanguage, hregion "CA" rfl⟩

/-- A second underscore, a region that is missing, small letters, letters of two bytes, and a blank
inside. -/
example : ∀ text ∈ ["fr_CA_", "fr_", "fr_ca", "é", "éé", "f r", "_CA", ""],
    parse text = .error ⟨text⟩ := by decide

end ConfigBar.Locale
