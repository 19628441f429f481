/-!
# Written decimal numbers

`Numeral` is a decimal number as it is written: sign, digits before and after the point, and the
exponent with its sign. It loses nothing of the spelling but the case of the exponent mark, which
is written small.
-/

namespace ConfigBar.Number

/-- The exponent part of a written number. -/
structure Exponent where
  /-- The sign, if one is written. -/
  sign : Option Char
  digits : List Char
  deriving DecidableEq, Repr

/-- A decimal number as it is written. -/
structure Numeral where
  negative : Bool
  whole : List Char
  /-- The digits after the point; without digits there is no point. -/
  fraction : List Char
  exponent : Option Exponent
  deriving DecidableEq, Repr

namespace Exponent

/-- The exponent as a number. -/
def value (e : Exponent) : Int :=
  let n : Int := Nat.ofDigitChars 10 e.digits 0
  if e.sign = some '-' then -n else n

/-- The characters of the exponent part. -/
def chars (e : Exponent) : List Char := 'e' :: (e.sign.toList ++ e.digits)

end Exponent

namespace Numeral

/-- The numeral of a natural number. -/
def ofNat (n : Nat) : Numeral := ⟨false, Nat.toDigits 10 n, [], none⟩

/-- The characters of a numeral. -/
def chars (n : Numeral) : List Char :=
  (if n.negative then ['-'] else []) ++ n.whole ++
    (if n.fraction.isEmpty then [] else '.' :: n.fraction) ++
    (match n.exponent with
      | none => []
      | some e => e.chars)

/-- The text of a numeral. -/
def text (n : Numeral) : String := String.ofList n.chars

/-- Neither a point nor an exponent is written. -/
def isWhole (n : Numeral) : Bool := n.fraction.isEmpty && n.exponent.isNone

/-- All digits, before and after the point, as one number. -/
def significand (n : Numeral) : Nat := Nat.ofDigitChars 10 (n.whole ++ n.fraction) 0

end Numeral

end ConfigBar.Number
