import ConfigBar.Locale.Catalog
/-!
# The places of locales

A catalog is asked for the place of a language and a region, either of which may be missing.
`IsPlace` says what the answer means: an entry of just these two, or that there is none.

A project lists no locale twice (`nodup_locales`). As long as it has no language of the name of the
sentinel, every entry of its catalog is found at its own place (`position?_of_get?`).
-/

namespace ConfigBar

namespace LocaleEntry

/-- The locale of an entry. -/
def locale (e : LocaleEntry) : Locale := ⟨e.language, e.region⟩

@[simp] theorem locale_ofLocale (l : Locale) : (ofLocale l).locale = l := rfl

end LocaleEntry

namespace LocaleCatalog

/-- A place of a language and a region in a catalog: the index of an entry with both, or none if no
entry has both. -/
def IsPlace (c : LocaleCatalog) (language region : Option String) : Option Nat → Prop
  | some i => ∃ e, c.get? i = some e ∧ language = some e.language ∧ region = e.region
  | none => ∀ e ∈ c.entries, ¬(language = some e.language ∧ region = e.region)

theorem isPlace_position? (c : LocaleCatalog) (language region : Option String) :
    c.IsPlace language region (c.position? language region) := by
  cases language with
  | none => exact fun e _ h => nomatch h.1
  | some l =>
    show c.IsPlace (some l) region (c.entries.findIdx? fun e => e.language == l && e.region == region)
    cases hi : c.entries.findIdx? fun e => e.language == l && e.region == region with
    | some i =>
      obtain ⟨hlt, hp, -⟩ := List.findIdx?_eq_some_iff_getElem.mp hi
      simp only [Bool.and_eq_true, beq_iff_eq] at hp
      exact ⟨c.entries[i], List.getElem?_eq_getElem hlt, congrArg some hp.1.symm, hp.2.symm⟩
    | none =>
      rintro e he ⟨hl, hr⟩
      cases hl
      have hp := List.findIdx?_eq_none_iff.mp hi e he
      simp [hr] at hp

/-- Nothing has a place without a language. -/
theorem IsPlace.eq_none {c : LocaleCatalog} {region : Option String} {i : Option Nat}
    (h : c.IsPlace none region i) : i = none := by
  cases i with
  | none => rfl
  | some i =>
    obtain ⟨e, -, hl, -⟩ := h
    cases hl

/-! ## Entries at their places -/

variable {languages : Languages}

theorem nodup_localesOf (language : String) (regions : SortedSet String) :
    (localesOf language regions).Nodup := by
  refine List.nodup_cons.mpr ⟨by simp, ?_⟩
  rw [List.Nodup, List.pairwise_map]
  refine regions.ascending.imp fun {a b} hlt heq => ?_
  have hab : a = b := by simpa using heq
  rw [hab, Std.ReflOrd.compare_self] at hlt
  cases hlt

theorem language_of_mem_localesOf {language : String} {regions : SortedSet String} {l : Locale}
    (h : l ∈ localesOf language regions) : l.language = language := by
  rcases List.mem_cons.mp h with rfl | h
  · rfl
  · obtain ⟨r, -, rfl⟩ := List.mem_map.mp h
    rfl

/-- A project lists no locale twice. -/
theorem nodup_locales (languages : Languages) : (locales languages).Nodup := by
  rw [locales, List.Nodup, List.pairwise_flatMap]
  refine ⟨fun e _ => nodup_localesOf e.1 e.2, ?_⟩
  have hkeys := languages.nodup_keys
  rw [List.Nodup, List.pairwise_map] at hkeys
  refine hkeys.imp fun hne l hl m hm hlm => hne ?_
  rw [← language_of_mem_localesOf hl, ← language_of_mem_localesOf hm, hlm]

theorem language_mem_of_mem_locales {l : Locale} (h : l ∈ locales languages) :
    l.language ∈ languages.toList.map Prod.fst := by
  obtain ⟨e, he, hl⟩ := List.mem_flatMap.mp h
  rw [language_of_mem_localesOf hl]
  exact List.mem_map_of_mem he

/-- The entries of a project without a language of the name of the sentinel are of different
locales. -/
theorem nodup_entries (h : localeSentinel ∉ languages.toList.map Prod.fst) :
    ((ofLanguages languages).entries.map LocaleEntry.locale).Nodup := by
  unfold ofLanguages
  rw [List.map_append, List.map_map]
  refine List.nodup_append.mpr ⟨?_, by simp, fun l hl m hm hlm => h ?_⟩
  · simpa [Function.comp_def] using nodup_locales languages
  · -- only a language of the name of the sentinel could stand for it
    have hl : l ∈ locales languages := by simpa [Function.comp_def] using hl
    cases List.mem_singleton.mp hm
    subst hlm
    exact language_mem_of_mem_locales hl

/-- Every entry of a catalog of different locales is found at its own place. -/
theorem position?_of_get? {c : LocaleCatalog} (h : (c.entries.map LocaleEntry.locale).Nodup)
    {i : Nat} {e : LocaleEntry} (he : c.get? i = some e) :
    c.position? (some e.language) e.region = some i := by
  have hplace := c.isPlace_position? (some e.language) e.region
  cases hp : c.position? (some e.language) e.region with
  | none =>
    rw [hp] at hplace
    exact absurd ⟨rfl, rfl⟩ (hplace e (List.mem_of_getElem? he))
  | some j =>
    rw [hp] at hplace
    obtain ⟨f, hf, hlanguage, hregion⟩ := hplace
    have hlocale : f.locale = e.locale := by
      rw [LocaleEntry.locale, LocaleEntry.locale, Option.some.inj hlanguage, hregion]
    -- the entries at both places are of the same locale
    have hi : (c.entries.map LocaleEntry.locale)[i]? = some e.locale := by
      rw [List.getElem?_map, show c.entries[i]? = some e from he, Option.map_some]
    have hj : (c.entries.map LocaleEntry.locale)[j]? = some e.locale := by
      rw [List.getElem?_map, show c.entries[j]? = some f from hf, Option.map_some, hlocale]
    obtain ⟨hlt, -⟩ := List.getElem?_eq_some_iff.mp hj
    rw [(List.getElem?_inj hlt h).mp (hj.trans hi.symm)]

end LocaleCatalog

end ConfigBar
