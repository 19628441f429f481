import ConfigBar.Qualifier.Kind
import ConfigBar.Qualifier.Values
/-!
# Qualifiers

A qualifier is one value of one kind. `segment` writes it as it stands in the name of a resource
folder, and `Kind.read?` reads the segments of one kind. `ofSegment?` tries the kinds in folder
order; a number after `mcc` or `mnc` settles the kind even if it is too large for a code.
-/

namespace ConfigBar

/-- The language and region of the locale entry that puts no constraint on the locale. -/
def localeSentinel : String := "__"

/-- Two small ASCII letters. -/
def isLanguageCode (s : String) : Bool :=
  match s.toList with
  | [a, b] => a.isLower && b.isLower
  | _ => false

/-- Two capital ASCII letters. -/
def isRegionCode (s : String) : Bool :=
  match s.toList with
  | [a, b] => a.isUpper && b.isUpper
  | _ => false

/-- One value of one kind. -/
inductive Qualifier where
  | countryCode (code : UInt16)
  | networkCode (code : UInt16)
  | language (code : String)
  | region (code : String)
  | orientation (value : Orientation)
  | density (value : Density)
  | touch (value : Touch)
  | keyboard (value : Keyboard)
  | textInput (value : TextInput)
  | navigation (value : Navigation)
  | dimension (value : Dimension)
  /-- The API level of the platform. -/
  | version (level : UInt32)
  deriving DecidableEq, Repr

namespace Qualifier

/-- The kind of a qualifier. -/
def kind : Qualifier → Kind
  | countryCode _ => .countryCode
  | networkCode _ => .networkCode
  | language _ => .language
  | region _ => .region
  | orientation _ => .orientation
  | density _ => .density
  | touch _ => .touch
  | keyboard _ => .keyboard
  | textInput _ => .textInput
  | navigation _ => .navigation
  | dimension _ => .dimension
  | version _ => .version

/-- The segment of a qualifier in a folder name. -/
def segment : Qualifier → String
  | countryCode code => "mcc" ++ toString code.toNat
  | networkCode code => "mnc" ++ toString code.toNat
  | language code => code
  | region code => "r" ++ code
  | orientation value => Spelling.segment value
  | density value => Spelling.segment value
  | touch value => Spelling.segment value
  | keyboard value => Spelling.segment value
  | textInput value => Spelling.segment value
  | navigation value => Spelling.segment value
  | dimension value => value.segment
  | version level => "v" ++ toString level.toNat

end Qualifier

/-- The number after `front`: decimal digits only, in 32 bits. -/
def numberAfter? (front : String) (s : String) : Option UInt32 := do
  let rest ← Text.after? front.toList s.toList
  let n ← Text.natOfDigits? rest
  Text.word32? n

/-- A number as a code of 16 bits. -/
def code? (n : UInt32) : Option UInt16 := Text.word16? n.toNat

/-- Reads a segment of one kind. -/
def Kind.read? : Kind → String → Option Qualifier
  | .countryCode, s => ((numberAfter? "mcc" s).bind code?).map .countryCode
  | .networkCode, s => ((numberAfter? "mnc" s).bind code?).map .networkCode
  | .language, s => if isLanguageCode s then some (.language s) else none
  | .region, s =>
    match Text.after? ['r'] s.toList with
    | some rest =>
      if isRegionCode (String.ofList rest) then some (.region (String.ofList rest)) else none
    | none => none
  | .orientation, s => (Spelling.ofSegment? s).map .orientation
  | .density, s => (Spelling.ofSegment? s).map .density
  | .touch, s => (Spelling.ofSegment? s).map .touch
  | .keyboard, s => (Spelling.ofSegment? s).map .keyboard
  | .textInput, s => (Spelling.ofSegment? s).map .textInput
  | .navigation, s => (Spelling.ofSegment? s).map .navigation
  | .dimension, s => (Dimension.ofSegment? s).map .dimension
  | .version, s => (numberAfter? "v" s).map .version

namespace Qualifier

/-- The kinds that are tried after the numeric codes, in folder order. -/
def kindsAfterCodes : List Kind :=
  [.language, .region, .orientation, .density, .touch, .keyboard, .textInput, .navigation,
    .dimension, .version]

/-- Reads a segment of any kind. -/
def ofSegment? (s : String) : Option Qualifier :=
  match numberAfter? "mcc" s, numberAfter? "mnc" s with
  | some n, _ => (code? n).map .countryCode
  | none, some n => (code? n).map .networkCode
  | none, none => kindsAfterCodes.findSome? fun k => k.read? s

end Qualifier

end ConfigBar
