import ConfigBar.Json.Value
import ConfigBar.Number.Shortest
/-!
# The values of JSON numbers

A numeral without point and exponent that fits a 64 bit word, signed or unsigned, is an integer.
Every other numeral is read into double precision: the digits are gathered into a 64 bit word as
long as they fit, further digits only count for the exponent, and the word is then multiplied or
divided by a power of ten, rounding once for each step. A numeral beyond the finite doubles has no
value.
-/

namespace ConfigBar.Json

open ConfigBar.Number

/-- The value of a numeral that is read as an integer. Minus zero is none. -/
def integer? (n : Numeral) : Option Int :=
  if !n.isWhole then none
  else if n.negative then
    if 0 < n.significand ∧ n.significand ≤ 0x8000000000000000 then some (-(n.significand : Int)) else none
  else if n.significand < UInt64.size then some n.significand
  else none

/-- The value of a numeral that is read as a natural number. -/
def natural? (n : Numeral) : Option Nat :=
  match integer? n with
  | some (.ofNat k) => some k
  | _ => none

/-- Appends digits to a word while the result fits 64 bits, and returns how many were left over. -/
def gather : Nat → List Char → Nat × Nat
  | word, [] => (word, 0)
  | word, d :: ds =>
    let next := word * 10 + (d.toNat - '0'.toNat)
    if next < UInt64.size then gather next ds else (word, (d :: ds).length)

/-- The word of gathered digits and the power of ten that goes with it. -/
def gathered (n : Numeral) : Nat × Int :=
  let (word, skipped) := gather 0 n.whole
  let (word, rest) := gather word n.fraction
  (word, (skipped : Int) - (n.fraction.length - rest : Nat))

/-- The double nearest to a power of ten. -/
def powerOfTen (n : Nat) : Magnitude := (BinaryFormat.double.round (Nat.pow 10 n) 1).getD ⟨0, 0⟩

/-- The double nearest to a quotient of two doubles. -/
def quotient (a b : Magnitude) : Option Magnitude :=
  BinaryFormat.double.round (a.numerator * b.denominator) (a.denominator * b.numerator)

/-- The double nearest to a product of two doubles. -/
def product (a b : Magnitude) : Option Magnitude :=
  BinaryFormat.double.round (a.numerator * b.numerator) (a.denominator * b.denominator)

/-- The largest power of ten below the largest double. -/
def largestPower : Nat := 308

/-- Divides by the largest power `steps` times and then by `10 ^ rest`; a zero stays as it is. -/
def divideRepeatedly (rest : Nat) : (steps : Nat) → Magnitude → Option Magnitude
  | 0, m => quotient m (powerOfTen rest)
  | steps + 1, m =>
    if m.significand = 0 then some m
    else (quotient m (powerOfTen largestPower)).bind (divideRepeatedly rest steps)

/-- Divides by `10 ^ n`, by at most the largest power at a time. -/
def divideByPower (m : Magnitude) (n : Nat) : Option Magnitude :=
  let steps := (n - 1) / largestPower
  divideRepeatedly (n - largestPower * steps) steps m

/-- Multiplies by `10 ^ n`. Only zero stays finite beyond the largest power. -/
def multiplyByPower (m : Magnitude) (n : Nat) : Option Magnitude :=
  if n ≤ largestPower then product m (powerOfTen n)
  else if m.significand = 0 then some m
  else none

/-- The magnitude of a numeral in double precision, or `none` if it is out of range. -/
def double? (n : Numeral) : Option Magnitude := do
  let (word, skipped) := gathered n
  let m ← BinaryFormat.double.round word 1
  let power : Int := skipped + (match n.exponent with
    | none => 0
    | some e => e.value)
  if 0 ≤ power then multiplyByPower m power.toNat else divideByPower m (-power).toNat

/-- Has the numeral a value? -/
def isInRange (n : Numeral) : Bool := (integer? n).isSome || (double? n).isSome

/-- The value of a numeral in single precision. -/
def single? (n : Numeral) : Option Single :=
  match integer? n with
  | some k => some (.ofInt k)
  | none => (double? n).map fun m => .ofRatio n.negative m.numerator m.denominator

/-- Numbers are written without exponent while the exponent of their first digit is from -6 to 12,
whole numbers with one zero after the point; of two equally near decimals the even one is taken. -/
def numberStyle : DecimalStyle := ⟨fun e => -6 ≤ e && e ≤ 12, ['0'], .toEven⟩

/-- A number of single precision; infinities and not-a-numbers are written as null. -/
def ofSingle (x : Single) : Json :=
  match x.numeral? numberStyle with
  | some n => .number n
  | none => .null

end ConfigBar.Json
