import ConfigBar.Locale.Label
import ConfigBar.Order.SortedMap
import ConfigBar.Order.SortedSet
/-!
# The catalog of locales

The locales to choose from: each language of the project, followed by its regions, in ascending
order, and last a sentinel that puts no constraint on the locale.
-/

namespace ConfigBar

/-- The languages of a project with their regions. -/
abbrev Languages := SortedMap String (SortedSet String)

/-- An entry of the catalog. -/
structure LocaleEntry where
  label : String
  language : String
  region : Option String
  deriving DecidableEq, Repr

namespace LocaleEntry

/-- The label of the sentinel when there are languages. -/
def otherLabel : String := "Other"

/-- The label of the sentinel when there is no language. -/
def anyLabel : String := "Any"

/-- The entry that puts no constraint on the locale. -/
def sentinel (label : String) : LocaleEntry := ⟨label, localeSentinel, some localeSentinel⟩

/-- The entry of a locale, under its own label. -/
def ofLocale (l : Locale) : LocaleEntry := ⟨l.label, l.language, l.region⟩

/-- Does the entry put no constraint on the locale? -/
def isSentinel (e : LocaleEntry) : Bool := e.language == localeSentinel

/-- The language as a qualifier. -/
def languageQualifier (e : LocaleEntry) : Qualifier := .language e.language

/-- The region as a qualifier. -/
def regionQualifier? (e : LocaleEntry) : Option Qualifier := e.region.map .region

end LocaleEntry

/-- The locales to choose from. -/
structure LocaleCatalog where
  entries : List LocaleEntry
  deriving DecidableEq, Repr

namespace LocaleCatalog

/-- The locales of a language: without region, and with each of its regions. -/
def localesOf (language : String) (regions : SortedSet String) : List Locale :=
  ⟨language, none⟩ :: regions.toList.map fun r => ⟨language, some r⟩

/-- All locales of a project. -/
def locales (languages : Languages) : List Locale :=
  languages.toList.flatMap fun e => localesOf e.1 e.2

/-- The catalog of the languages of a project. -/
def ofLanguages (languages : Languages) : LocaleCatalog :=
  let label := if languages.isEmpty then LocaleEntry.anyLabel else LocaleEntry.otherLabel
  ⟨(locales languages).map LocaleEntry.ofLocale ++ [LocaleEntry.sentinel label]⟩

/-- The catalog of a project that may be missing. Without one there is only the sentinel. -/
def ofProject (languages : Option Languages) : LocaleCatalog :=
  match languages with
  | some languages => ofLanguages languages
  | none => ⟨[LocaleEntry.sentinel LocaleEntry.anyLabel]⟩

/-- The number of entries. -/
def size (c : LocaleCatalog) : Nat := c.entries.length

/-- Are there no entries? -/
def isEmpty (c : LocaleCatalog) : Bool := c.entries.isEmpty

/-- The entry at an index. -/
def get? (c : LocaleCatalog) (i : Nat) : Option LocaleEntry := c.entries[i]?

/-- The labels of the entries. -/
def labels (c : LocaleCatalog) : List String := c.entries.map LocaleEntry.label

/-- The sentinel at the end. -/
def sentinel? (c : LocaleCatalog) : Option LocaleEntry :=
  c.entries.getLast?.filter LocaleEntry.isSentinel

/-- The index of the entry of a language and a region. Without a language there is none. -/
def position? (c : LocaleCatalog) (language region : Option String) : Option Nat :=
  language.bind fun l => c.entries.findIdx? fun e => e.language == l && e.region == region

end LocaleCatalog

end ConfigBar
