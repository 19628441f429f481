import ConfigBar.Text.Blank
import ConfigBar.Text.Pieces
import ConfigBar.Text.Numeral
/-!
# Values of the qualifiers

The enumerated values and the screen dimension. Every enumerated value has a segment, its spelling
in folder names, and a word, its spelling in JSON. `Spelling` collects both with the noun that an
error names, and the readers are written once for all types: `ofSegment?` ignores blanks around a
segment, `ofWord?` takes a word as it is.
-/

namespace ConfigBar

/-- A finite type whose values are spelled by fixed words. -/
class Spelling (α : Type) where
  values : List α
  /-- The spelling in folder names. -/
  segment : α → String
  /-- The spelling in JSON. -/
  word : α → String
  /-- What a value is called in an error. -/
  noun : String

/-- A text that spells no value. -/
structure UnknownValue where
  noun : String
  text : String
  deriving DecidableEq, Repr

/-- The text of the error, with the unreadable text as it was given. -/
def UnknownValue.message (e : UnknownValue) : String := "Unknown " ++ e.noun ++ ": " ++ e.text

namespace Spelling

variable {α : Type} [Spelling α]

/-- The value with a segment, up to blanks around the text. -/
def ofSegment? (text : String) : Option α := values.find? fun v => segment v = Text.trim text

/-- The value with a word. -/
def ofWord? (text : String) : Option α := values.find? fun v => word v = text

/-- Reads a segment. -/
def read (text : String) : Except UnknownValue α :=
  match ofSegment? text with
  | some v => .ok v
  | none => .error ⟨noun α, text⟩

end Spelling

/-- Bucket of screen pixel density. -/
inductive Density where
  | low
  | medium
  | high
  /-- Bitmaps are not scaled. -/
  | none
  deriving DecidableEq, Repr

instance : Spelling Density where
  values := [.low, .medium, .high, .none]
  segment
    | .low => "ldpi"
    | .medium => "mdpi"
    | .high => "hdpi"
    | .none => "nodpi"
  word
    | .low => "low"
    | .medium => "medium"
    | .high => "high"
    | .none => "nodpi"
  noun := "density"

/-- The nominal dots per inch of a bucket. -/
def Density.dotsPerInch : Density → Nat
  | .low => 120
  | .medium => 160
  | .high => 240
  | .none => 0

/-- Screen orientation. -/
inductive Orientation where
  | portrait
  | landscape
  | square
  deriving DecidableEq, Repr

instance : Spelling Orientation where
  values := [.portrait, .landscape, .square]
  segment
    | .portrait => "port"
    | .landscape => "land"
    | .square => "square"
  word
    | .portrait => "portrait"
    | .landscape => "landscape"
    | .square => "square"
  noun := "screen orientation"

/-- Type of touch screen. -/
inductive Touch where
  | none
  | stylus
  | finger
  deriving DecidableEq, Repr

instance : Spelling Touch where
  values := [.none, .stylus, .finger]
  segment
    | .none => "notouch"
    | .stylus => "stylus"
    | .finger => "finger"
  word
    | .none => "notouch"
    | .stylus => "stylus"
    | .finger => "finger"
  noun := "touch screen type"

/-- Availability of a hardware keyboard. -/
inductive Keyboard where
  | exposed
  | hidden
  | soft
  deriving DecidableEq, Repr

instance : Spelling Keyboard where
  values := [.exposed, .hidden, .soft]
  segment
    | .exposed => "keysexposed"
    | .hidden => "keyshidden"
    | .soft => "keyssoft"
  word
    | .exposed => "exposed"
    | .hidden => "hidden"
    | .soft => "soft"
  noun := "keyboard state"

/-- Primary method of text input. -/
inductive TextInput where
  | none
  | qwerty
  | twelveKey
  deriving DecidableEq, Repr

instance : Spelling TextInput where
  values := [.none, .qwerty, .twelveKey]
  segment
    | .none => "nokeys"
    | .qwerty => "qwerty"
    | .twelveKey => "12key"
  word
    | .none => "nokey"
    | .qwerty => "qwerty"
    | .twelveKey => "twelvekey"
  noun := "text input method"

/-- Primary method of navigation without touch. -/
inductive Navigation where
  | none
  | dpad
  | trackball
  | wheel
  deriving DecidableEq, Repr

instance : Spelling Navigation where
  values := [.none, .dpad, .trackball, .wheel]
  segment
    | .none => "nonav"
    | .dpad => "dpad"
    | .trackball => "trackball"
    | .wheel => "wheel"
  word
    | .none => "nonav"
    | .dpad => "dpad"
    | .trackball => "trackball"
    | .wheel => "wheel"
  noun := "navigation method"

/-- Screen dimension in the order of the device. -/
structure Dimension where
  size1 : UInt32
  size2 : UInt32
  deriving DecidableEq, Repr

namespace Dimension

/-- The dimension of a screen that names none. -/
def default : Dimension := ⟨480, 320⟩

/-- The two sizes with an `x` between them. -/
def segment (d : Dimension) : String := toString d.size1.toNat ++ "x" ++ toString d.size2.toNat

/-- A size: decimal digits that may follow a plus sign, in 32 bits. -/
def size? (cs : List Char) : Option UInt32 := (Text.natOfSigned? cs).bind Text.word32?

/-- Reads two sizes around the first `x`, up to blanks around the text. -/
def ofSegment? (text : String) : Option Dimension := do
  let (first, second) ← Text.cut? 'x' (Text.trimChars text.toList)
  some ⟨← size? first, ← size? second⟩

/-- Reads a dimension. -/
def read (text : String) : Except UnknownValue Dimension :=
  match ofSegment? text with
  | some d => .ok d
  | none => .error ⟨"screen dimension", text⟩

end Dimension

end ConfigBar
