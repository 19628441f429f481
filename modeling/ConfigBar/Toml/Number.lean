import ConfigBar.Toml.Syntax
import ConfigBar.Text.Numeral
import ConfigBar.Text.Pieces
import ConfigBar.Text.Hexadecimal
/-!
# TOML numbers

Integers in decimal with an optional sign, or in one of three other bases without; floating-point
numbers in decimal, `inf` and `nan`. An underscore may stand between two digits. A decimal number
has no leading zeros.

A number is read in two steps. The first decides whether it may stand in a text, the second what
its value is. There are numbers without a value: one that rounds beyond the finite doubles, a base
without digits, and a decimal integer that goes on with other signs after an underscore. They are
errors only where a value is asked for.
-/

namespace ConfigBar.Toml

open ConfigBar.Number

/-- Does every underscore stand between two digits? -/
def hasInnerUnderscores (isDigit : Char → Bool) (cs : List Char) : Bool :=
  let runs := Text.pieces '_' cs
  (runs.drop 1).all (fun r => r.head?.any isDigit) &&
    runs.dropLast.all fun r => r.getLast?.any isDigit

/-- A number without its underscores. -/
def withoutUnderscores (cs : List Char) : List Char := cs.filter (· != '_')

/-- The digits of a number without the underscores, which may only stand between two of them. -/
def digitRun? (cs : List Char) : Option (List Char) :=
  let ds := withoutUnderscores cs
  if ds ≠ [] ∧ ds.all Char.isDigit ∧ hasInnerUnderscores Char.isDigit cs then some ds else none

/-- The digits of a decimal number without leading zeros. -/
def wholeDigits? (cs : List Char) : Option (List Char) :=
  (digitRun? cs).filter fun ds => ds.head? ≠ some '0' || cs = ['0']

/-- A sign and the rest. -/
def signed : List Char → Option Char × List Char
  | '+' :: cs => (some '+', cs)
  | '-' :: cs => (some '-', cs)
  | cs => (none, cs)

/-- The value of digits in a base. -/
def valueIn (base : Nat) (ds : List Char) : Nat :=
  ds.foldl (fun n d => n * base + (Text.hexValue? d).getD 0) 0

/-- Is a character a digit in a base? -/
def isDigitIn (base : Nat) (c : Char) : Bool := (Text.hexValue? c).any (· < base)

/-- Is a character a digit in any base? -/
def isAnyDigit (c : Char) : Bool := isDigitIn 16 c

/-- Reads the digits of an integer after the mark of its base. -/
def based? (base : Nat) (cs : List Char) : Option (Option Int) :=
  let ds := withoutUnderscores cs
  if ds.all (isDigitIn base) && hasInnerUnderscores isAnyDigit cs then
    some (if ds.isEmpty then none else some (valueIn base ds))
  else none

/-- A character that no integer goes on with. -/
def endsInteger (c : Char) : Bool := c == '.' || c == 'e' || c == 'E' || c == ' '

/-- Reads a decimal integer. After its digits it may go on with an underscore and any other
characters but those of `endsInteger`. -/
def decimal? (cs : List Char) : Option (Option Int) :=
  let (sign, cs) := signed cs
  let ds := withoutUnderscores cs
  let goesOn := (cs.dropWhile Char.isDigit).head?
  if (goesOn = none ∨ goesOn = some '_') ∧ ¬cs.any endsInteger ∧
      hasInnerUnderscores isAnyDigit cs ∧ ds ≠ [] ∧ (ds.head? ≠ some '0' ∨ cs = ['0']) then
    some (if ds.all Char.isDigit then
      some (if sign = some '-' then -(valueIn 10 ds : Int) else valueIn 10 ds)
    else none)
  else none

/-- Reads an integer and its value, if it has one. -/
def integer? : List Char → Option (Option Int)
  | '0' :: 'x' :: cs => based? 16 cs
  | '0' :: 'o' :: cs => based? 8 cs
  | '0' :: 'b' :: cs => based? 2 cs
  | cs => decimal? cs

/-- The double nearest to `significand * 10 ^ power`. Far away powers are decided by the number of
digits alone. -/
def nearestDouble? (significand : Nat) (power : Int) : Option Magnitude :=
  let size : Int := (Text.digits significand).length + power
  if significand = 0 || size < -400 then some ⟨0, BinaryFormat.double.leastExponent⟩
  else if 400 < size then none
  else BinaryFormat.double.round (significand * Nat.pow 10 power.toNat) (Nat.pow 10 (-power).toNat)

/-- The whole part, the fraction and the exponent of a number with a point, an exponent or both. -/
def floatParts? (cs : List Char) : Option (List Char × List Char × Int) := do
  let mantissa := cs.takeWhile fun c => c != 'e' && c != 'E'
  let power ← match cs.dropWhile fun c => c != 'e' && c != 'E' with
    | [] => some none
    | _ :: cs =>
      let (sign, cs) := signed cs
      (digitRun? cs).map fun ds =>
        some (if sign = some '-' then -(valueIn 10 ds : Int) else valueIn 10 ds)
  match Text.cut? '.' mantissa, power with
  | some (whole, fraction), power =>
    some (← wholeDigits? whole, ← digitRun? fraction, power.getD 0)
  | none, some power => some (← wholeDigits? mantissa, [], power)
  | none, none => none

/-- Reads a floating-point number and its value, if it has one. -/
def float? (cs : List Char) : Option (Option Decoded) :=
  let (sign, cs) := signed cs
  let negative := sign = some '-'
  match cs with
  | ['i', 'n', 'f'] => some (some (.infinite negative))
  | ['n', 'a', 'n'] => some (some .notANumber)
  | cs =>
    (floatParts? cs).map fun (whole, fraction, power) =>
      (nearestDouble? (valueIn 10 (whole ++ fraction)) (power - fraction.length)).map
        (.finite negative)

end ConfigBar.Toml
