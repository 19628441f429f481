import ConfigBar.Proofs.Locale.Position
/-!
# The catalog of locales as an index

A catalog lists the locales of a table of languages, each once and in ascending order, and the
sentinel behind them. As long as no language has the name of the sentinel, an entry is told by its
language and region: its index leads to them, and they lead back to the index.

* `Locale.Precedes` — the order of locales, with a language before its regions
* `mem_locales` — the locales of a table (`Languages.HasLocale`)
* `ascending_locales` — they stand in strictly ascending order
* `isSentinel_iff` — the sentinel is the last entry and no other
* `ofLanguages_exact` — all this for the catalog, and its look-ups
-/

namespace ConfigBar

/-- The order of locales: by the language, then by the region. A language stands before its regions. -/
inductive Locale.Precedes : Locale → Locale → Prop where
  | language {a b : Locale} : compare a.language b.language = .lt → Precedes a b
  | bare {language region : String} : Precedes ⟨language, none⟩ ⟨language, some region⟩
  | region {language r s : String} : compare r s = .lt →
      Precedes ⟨language, some r⟩ ⟨language, some s⟩

/-- Is the locale one of a table: a language of the table, alone or with one of its regions? -/
def Languages.HasLocale (languages : Languages) (l : Locale) : Prop :=
  ∃ regions, languages.get? l.language = some regions ∧ ∀ r, l.region = some r → r ∈ regions

namespace LocaleCatalog

variable {languages : Languages} {l : Locale}

/-! ## The locales of a table -/

theorem mem_localesOf {language : String} {regions : SortedSet String} :
    l ∈ localesOf language regions ↔
      l.language = language ∧ ∀ r, l.region = some r → r ∈ regions := by
  obtain ⟨name, region⟩ := l
  unfold localesOf
  rw [List.mem_cons, List.mem_map]
  cases region with
  | none => simp
  | some r =>
    constructor
    · rintro (h | ⟨s, hs, h⟩)
      · cases h
      · cases h
        exact ⟨rfl, fun r hr => Option.some.inj hr ▸ hs⟩
    · rintro ⟨rfl, hregion⟩
      exact Or.inr ⟨r, hregion r rfl, rfl⟩

theorem mem_locales : l ∈ locales languages ↔ languages.HasLocale l := by
  unfold locales
  rw [List.mem_flatMap]
  constructor
  · rintro ⟨⟨language, regions⟩, he, hl⟩
    obtain ⟨rfl, hregion⟩ := mem_localesOf.mp hl
    exact ⟨regions, SortedMap.get?_eq_some_iff.mpr he, hregion⟩
  · rintro ⟨regions, hget, hregion⟩
    exact ⟨(l.language, regions), SortedMap.get?_eq_some_iff.mp hget,
      mem_localesOf.mpr ⟨rfl, hregion⟩⟩

theorem ascending_localesOf (language : String) (regions : SortedSet String) :
    (localesOf language regions).Pairwise Locale.Precedes := by
  refine List.pairwise_cons.mpr ⟨fun l hl => ?_, ?_⟩
  · obtain ⟨r, -, rfl⟩ := List.mem_map.mp hl
    exact .bare
  · rw [List.pairwise_map]
    exact regions.ascending.imp .region

/-- The locales of a table stand in strictly ascending order. -/
theorem ascending_locales (languages : Languages) :
    (locales languages).Pairwise Locale.Precedes := by
  rw [locales, List.pairwise_flatMap]
  refine ⟨fun e _ => ascending_localesOf e.1 e.2, languages.ascending.imp ?_⟩
  intro a b hlt l hl m hm
  refine .language ?_
  rw [language_of_mem_localesOf hl, language_of_mem_localesOf hm]
  exact hlt

/-! ## The entries -/

theorem size_ofLanguages (languages : Languages) :
    (ofLanguages languages).size = (locales languages).length + 1 := by
  simp [size, ofLanguages]

/-- The locales of the table stand in front, the sentinel behind them. -/
theorem get?_cases {i : Nat} {e : LocaleEntry} (h : (ofLanguages languages).get? i = some e) :
    (i < (locales languages).length ∧ ∃ l ∈ locales languages, e = .ofLocale l) ∨
      (i = (locales languages).length ∧ ∃ label, e = .sentinel label) := by
  unfold get? ofLanguages at h
  rcases Nat.lt_or_ge i (locales languages).length with hi | hi
  · rw [List.getElem?_append_left (by simpa using hi), List.getElem?_map] at h
    obtain ⟨l, hl, rfl⟩ := Option.map_eq_some_iff.mp h
    exact Or.inl ⟨hi, l, List.mem_of_getElem? hl, rfl⟩
  · rw [List.getElem?_append_right (by simpa using hi)] at h
    obtain ⟨hlt, rfl⟩ := List.getElem?_eq_some_iff.mp h
    rw [List.length_map, List.length_singleton] at hlt
    exact Or.inr ⟨by omega, _, List.getElem_singleton _⟩

/-- The sentinel is the last entry and no other, if no language has its name. -/
theorem isSentinel_iff (h : localeSentinel ∉ languages.keys) {i : Nat} {e : LocaleEntry}
    (he : (ofLanguages languages).get? i = some e) :
    e.isSentinel = true ↔ i + 1 = (ofLanguages languages).size := by
  rw [size_ofLanguages, Nat.add_right_cancel_iff]
  rcases get?_cases he with ⟨hi, l, hl, rfl⟩ | ⟨hi, label, rfl⟩
  · have hlanguage := language_mem_of_mem_locales hl
    constructor
    · intro hsentinel
      have hname : l.language = localeSentinel := beq_iff_eq.mp hsentinel
      exact absurd (hname ▸ hlanguage) h
    · intro hlast
      exact absurd hlast (Nat.ne_of_lt hi)
  · exact iff_of_true (beq_self_eq_true localeSentinel) hi

theorem position?_eq_none_iff {c : LocaleCatalog} {language region : Option String} :
    c.position? language region = none ↔
      ∀ e ∈ c.entries, ¬(language = some e.language ∧ region = e.region) := by
  have hplace := c.isPlace_position? language region
  cases hp : c.position? language region with
  | none =>
    rw [hp] at hplace
    exact ⟨fun _ => hplace, fun _ => rfl⟩
  | some i =>
    rw [hp] at hplace
    obtain ⟨e, he, hlocale⟩ := hplace
    constructor
    · intro hnone
      cases hnone
    · intro hall
      exact absurd hlocale (hall e (List.mem_of_getElem? he))

/-! ## The index -/

/-- A catalog that is a complete and ordered index of the locales of a table. -/
structure Indexes (c : LocaleCatalog) (languages : Languages) : Prop where
  /-- Each locale of the table has one entry, in ascending order. Behind them stands the sentinel,
  whose label tells whether there are languages. -/
  exists_locales : ∃ ls : List Locale,
    c.entries = ls.map .ofLocale ++ [.sentinel (if languages.keys = [] then "Any" else "Other")] ∧
      ls.Pairwise Locale.Precedes ∧ ls.Nodup ∧ ∀ l, l ∈ ls ↔ languages.HasLocale l
  isSentinel_iff : ∀ i e, c.get? i = some e → (e.isSentinel = true ↔ i + 1 = c.size)
  /-- The language and the region of an entry lead back to it. -/
  position?_of_get? : ∀ i e, c.get? i = some e →
    c.position? (some e.language) e.region = some i
  /-- No others lead anywhere. -/
  position?_eq_none_iff : ∀ language region, c.position? language region = none ↔
    ∀ e ∈ c.entries, ¬(language = some e.language ∧ region = e.region)

/-- **The catalog is a complete and ordered index of the locales**, if no language has the name of
the sentinel. -/
theorem ofLanguages_exact (languages : Languages) (h : localeSentinel ∉ languages.keys) :
    (ofLanguages languages).Indexes languages where
  exists_locales := by
    have hlabel : (if languages.isEmpty then LocaleEntry.anyLabel else LocaleEntry.otherLabel) =
        if languages.keys = [] then "Any" else "Other" := by
      simp [SortedMap.isEmpty, SortedMap.keys, LocaleEntry.anyLabel, LocaleEntry.otherLabel]
    refine ⟨locales languages, ?_, ascending_locales languages, nodup_locales languages,
      fun l => mem_locales⟩
    rw [← hlabel]
    rfl
  isSentinel_iff _ _ := isSentinel_iff h
  position?_of_get? _ _ := position?_of_get? (nodup_entries h)
  position?_eq_none_iff _ _ := position?_eq_none_iff

/-- A region with the name of the sentinel, and two entries that look alike up to an underscore. -/
theorem ofLanguages_exact_of_underscores :
    let languages : Languages :=
      .ofList [("fr", ∅), ("en", .ofList ["US", "__", "GB"]), ("e", .ofList ["n_GB"])]
    let c := ofLanguages languages
    localeSentinel ∉ languages.keys ∧
      c.labels = ["e", "e_n_GB", "en", "en_GB", "en_US", "en___", "fr", "Other"] ∧
      c.position? (some "en") (some "__") = some 5 ∧
      c.position? (some "__") (some "__") = some 7 ∧ c.position? (some "__") none = none := by
  intro languages c
  have hlanguages : localeSentinel ∉ languages.keys := by decide
  have hindexes := ofLanguages_exact languages hlanguages
  have hregion : c.get? 5 = some ⟨"en___", "en", some "__"⟩ := by decide +kernel
  have hsentinel : c.get? 7 = some (.sentinel "Other") := by decide +kernel
  refine ⟨hlanguages, by decide +kernel, hindexes.position?_of_get? 5 _ hregion,
    hindexes.position?_of_get? 7 _ hsentinel, (hindexes.position?_eq_none_iff _ _).mpr ?_⟩
  decide +kernel

end LocaleCatalog

end ConfigBar
