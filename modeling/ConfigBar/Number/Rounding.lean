/-!
# Rounding to a binary floating-point format

A non-negative real number is given as a quotient of natural numbers and rounded, half to even, to
the nearest number of a binary format. All arithmetic is exact: nothing here uses machine floating
point.

* `BinaryFormat.round` rounds a quotient; it answers `none` when the result is beyond the largest
  finite number of the format.
* `Magnitude` is a finite non-negative number of a binary format, `significand * 2 ^ exponent`.
-/

namespace ConfigBar.Number

/-- A binary floating-point format, by the number of its significand bits and the exponents of its
unit in the last place. -/
structure BinaryFormat where
  /-- Bits of a normal significand. -/
  precision : Nat
  /-- Exponent of the unit of the subnormal numbers. -/
  leastExponent : Int
  /-- Exponent of the unit of the largest numbers. -/
  greatestExponent : Int

/-- The format of 32 bits. -/
def BinaryFormat.single : BinaryFormat := ⟨24, -149, 104⟩

/-- The format of 64 bits. -/
def BinaryFormat.double : BinaryFormat := ⟨53, -1074, 971⟩

/-- A finite non-negative number of a binary format: `significand * 2 ^ exponent`. -/
structure Magnitude where
  significand : Nat
  exponent : Int
  deriving DecidableEq, Repr

/-- The value as a quotient: its numerator. -/
def Magnitude.numerator (m : Magnitude) : Nat := m.significand * Nat.pow 2 m.exponent.toNat

/-- The value as a quotient: its denominator. -/
def Magnitude.denominator (m : Magnitude) : Nat := Nat.pow 2 (-m.exponent).toNat

/-- The natural number nearest to `num / den`; of two nearest the even one. -/
def roundHalfEven (num den : Nat) : Nat :=
  let q := num / den
  let r := num % den
  if 2 * r < den then q
  else if den < 2 * r then q + 1
  else if q % 2 = 0 then q else q + 1

namespace BinaryFormat

/-- Rounds `num / den` with the unit `2 ^ e`. The result may carry into the next exponent. -/
def roundAt (f : BinaryFormat) (num den : Nat) (e : Int) : Magnitude :=
  let m := roundHalfEven (num * Nat.pow 2 (-e).toNat) (den * Nat.pow 2 e.toNat)
  if m = Nat.pow 2 f.precision then ⟨Nat.pow 2 (f.precision - 1), e + 1⟩ else ⟨m, e⟩

/-- The exponent of the unit in which `num / den` has `precision` bits, or the least exponent if
the quotient is smaller than the smallest normal number. -/
def unitExponent (f : BinaryFormat) (num den : Nat) : Int :=
  let guess := max f.leastExponent ((num.log2 : Int) - den.log2 - f.precision)
  let scaled := num * Nat.pow 2 (-guess).toNat / (den * Nat.pow 2 guess.toNat)
  if Nat.pow 2 f.precision ≤ scaled then guess + 1 else guess

/-- The number of the format nearest to `num / den`, half to even, or `none` if that is beyond the
finite numbers. The denominator is positive. -/
def round (f : BinaryFormat) (num den : Nat) : Option Magnitude :=
  if num = 0 then some ⟨0, f.leastExponent⟩
  else
    let m := f.roundAt num den (f.unitExponent num den)
    if f.greatestExponent < m.exponent then none else some m

end BinaryFormat

end ConfigBar.Number
