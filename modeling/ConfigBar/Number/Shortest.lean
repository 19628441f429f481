import ConfigBar.Number.Single
import ConfigBar.Number.Numeral
/-!
# The shortest decimal that reads back

The digits of a binary floating-point number are the fewest that still lie in the interval of reals
that round to it, and of two decimals with that many digits the nearer one. A `DecimalStyle`
decides how the digits are laid out.

* `shortestDecimal` finds the digits on the decimal grids, from coarse to fine. On one grid only the
  two neighbours of the value have to be tried: if any point of the grid lies in the interval, one
  of them does.
* `Single.numeral` lays them out.
-/

namespace ConfigBar.Number

/-- A positive decimal number `digits * 10 ^ exponent`. -/
structure Decimal where
  digits : Nat
  exponent : Int
  deriving DecidableEq, Repr

/-- Which of two equally near decimals is taken. -/
inductive Tie where
  | toEven
  | upward
  deriving DecidableEq, Repr

/-- `num / den ≤ digits * 10 ^ exponent`. -/
def Decimal.isAtLeast (d : Decimal) (num den : Nat) : Bool :=
  num * Nat.pow 10 (-d.exponent).toNat ≤ d.digits * Nat.pow 10 d.exponent.toNat * den

/-- `digits * 10 ^ exponent ≤ num / den`. -/
def Decimal.isAtMost (d : Decimal) (num den : Nat) : Bool :=
  d.digits * Nat.pow 10 d.exponent.toNat * den ≤ num * Nat.pow 10 (-d.exponent).toNat

/-- The exponent of the first digit of a positive quotient: the greatest `e` with
`10 ^ e ≤ num / den`. -/
def firstDigitExponent (num den : Nat) : Int :=
  if den ≤ num then (Nat.toDigits 10 (num / den)).length - 1
  else -(((List.range 400).find? fun j => den ≤ num * Nat.pow 10 (j + 1)).getD 400 + 1)

/-- The reals that round to a magnitude, in quarters of its unit: half a unit to either side, a
quarter below when the number below has a smaller unit. The ends belong to it when the significand
is even. -/
structure Interval where
  low : Nat
  value : Nat
  high : Nat
  /-- The common denominator of the three. -/
  unit : Nat
  closed : Bool

/-- The reals that round to the magnitude `m` of the format `f`. -/
def Interval.around (f : BinaryFormat) (m : Magnitude) : Interval :=
  let up := Nat.pow 2 m.exponent.toNat
  let hasFinerBelow := m.significand = Nat.pow 2 (f.precision - 1) ∧ f.leastExponent < m.exponent
  let below := if hasFinerBelow then 1 else 2
  { low := (4 * m.significand - below) * up
    value := 4 * m.significand * up
    high := (4 * m.significand + 2) * up
    unit := 4 * Nat.pow 2 (-m.exponent).toNat
    closed := m.significand % 2 = 0 }

/-- Does the decimal round to the magnitude? -/
def Interval.contains (i : Interval) (d : Decimal) : Bool :=
  if i.closed then d.isAtLeast i.low i.unit && d.isAtMost i.high i.unit
  else !d.isAtMost i.low i.unit && !d.isAtLeast i.high i.unit

/-- The neighbours of the value on the grid of the multiples of `10 ^ k`. -/
def Interval.neighbours (i : Interval) (k : Int) : Decimal × Decimal :=
  let d := i.value * Nat.pow 10 (-k).toNat / (i.unit * Nat.pow 10 k.toNat)
  (⟨d, k⟩, ⟨d + 1, k⟩)

/-- Twice the value against the sum of two neighbours decides which one is nearer. -/
def Interval.nearer (i : Interval) (tie : Tie) (a b : Decimal) : Decimal :=
  let mid : Decimal := ⟨a.digits + b.digits, a.exponent⟩
  if !mid.isAtMost (2 * i.value) i.unit then a
  else if !mid.isAtLeast (2 * i.value) i.unit then b
  else
    match tie with
    | .upward => b
    | .toEven => if a.digits % 2 = 0 then a else b

/-- The decimal of the grid `10 ^ k` that rounds to the magnitude, if there is one. -/
def Interval.onGrid? (i : Interval) (tie : Tie) (k : Int) : Option Decimal :=
  let (a, b) := i.neighbours k
  match i.contains a, i.contains b with
  | true, true => some (i.nearer tie a b)
  | true, false => some a
  | false, true => some b
  | false, false => none

/-- The decimal with the fewest digits that rounds to a positive magnitude. Seventeen digits are
enough for every number of 64 bits. -/
def shortestDecimal (f : BinaryFormat) (tie : Tie) (m : Magnitude) : Decimal :=
  let i := Interval.around f m
  let e := firstDigitExponent i.value i.unit
  ((List.range 17).findSome? fun (n : Nat) => i.onGrid? tie (e - n)).getD ⟨m.significand, 0⟩

/-- Drops the zeros at the end of the digits. -/
def Decimal.stripZeros (d : Decimal) : Decimal :=
  let cs := Nat.toDigits 10 d.digits
  let kept := (cs.reverse.dropWhile (· = '0')).reverse
  ⟨Nat.ofDigitChars 10 kept 0, d.exponent + (cs.length - kept.length : Nat)⟩

/-- How a decimal number is laid out. -/
structure DecimalStyle where
  /-- The exponents of the first digit for which no exponent is written. -/
  isPositional : Int → Bool
  /-- The fraction of a whole number. -/
  wholeFraction : List Char
  tie : Tie

/-- The digits of `d` in a given style. -/
def Decimal.numeral (style : DecimalStyle) (negative : Bool) (d : Decimal) : Numeral :=
  let cs := Nat.toDigits 10 d.digits
  let first : Int := d.exponent + cs.length - 1
  if style.isPositional first then
    if 0 ≤ d.exponent then
      ⟨negative, cs ++ List.replicate d.exponent.toNat '0', style.wholeFraction, none⟩
    else if 0 ≤ first then
      ⟨negative, cs.take (first.toNat + 1), cs.drop (first.toNat + 1), none⟩
    else ⟨negative, ['0'], List.replicate (-first - 1).toNat '0' ++ cs, none⟩
  else
    let sign := if first < 0 then '-' else '+'
    ⟨negative, cs.take 1, cs.drop 1, some ⟨some sign, Nat.toDigits 10 first.natAbs⟩⟩

namespace Single

/-- The numeral of a finite number; `none` for the others. -/
def numeral? (style : DecimalStyle) (x : Single) : Option Numeral :=
  match x.decode with
  | .finite negative m =>
    if m.significand = 0 then some ⟨negative, ['0'], style.wholeFraction, none⟩
    else some ((shortestDecimal .single style.tie m).stripZeros.numeral style negative)
  | _ => none

/-- Plain text never has an exponent, whole numbers have no point, and a tie goes up. -/
def plainStyle : DecimalStyle := ⟨fun _ => true, [], .upward⟩

/-- The plain text of a number. -/
def plainText (x : Single) : String :=
  match x.decode, x.numeral? plainStyle with
  | _, some n => n.text
  | .infinite true, none => "-inf"
  | .infinite false, none => "inf"
  | _, none => "NaN"

end Single

end ConfigBar.Number
