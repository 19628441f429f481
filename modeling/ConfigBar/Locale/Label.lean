import ConfigBar.Qualifier.Basic
/-!
# Typed locales

The text of a locale is a language of two small letters, and a region of two capital letters that
may follow after an underscore. Blanks around the text do not count.
-/

namespace ConfigBar

/-- A language and a region that may be missing. -/
structure Locale where
  language : String
  region : Option String
  deriving DecidableEq, Repr

/-- The text of a locale is malformed. -/
structure InvalidLocale where
  /-- The text without the blanks around it. -/
  text : String
  deriving DecidableEq, Repr

/-- The text of the error. -/
def InvalidLocale.message (e : InvalidLocale) : String := "invalid locale: " ++ e.text

namespace Locale

/-- The language, and the region after an underscore. -/
def label (l : Locale) : String :=
  match l.region with
  | none => l.language
  | some r => l.language ++ "_" ++ r

/-- The locale of a language and a region, if both are well-formed. -/
def ofCodes? (language : String) (region : Option String) : Option Locale :=
  if isLanguageCode language && region.all isRegionCode then some ⟨language, region⟩ else none

/-- Reads the text of a locale that has no blanks around it. -/
def ofTrimmed? (cs : List Char) : Option Locale :=
  match Text.cut? '_' cs with
  | some (language, region) => ofCodes? (String.ofList language) (some (String.ofList region))
  | none => ofCodes? (String.ofList cs) none

/-- Reads the text of a locale. -/
def parse (text : String) : Except InvalidLocale Locale :=
  match ofTrimmed? (Text.trimChars text.toList) with
  | some l => .ok l
  | none => .error ⟨Text.trim text⟩

end Locale

end ConfigBar
