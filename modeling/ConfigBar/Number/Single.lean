import ConfigBar.Number.Rounding
/-!
# Single-precision numbers

`Single` is a floating-point number of 32 bits, held as its bits, so that equality is decidable and
tells the two zeros and the payloads of the not-a-numbers apart. Numbers enter by rounding a
magnitude and leave by `decode`.
-/

namespace ConfigBar.Number

/-- A floating-point number of 32 bits. -/
structure Single where
  bits : UInt32
  deriving DecidableEq, Repr

/-- What a floating-point number stands for. -/
inductive Decoded where
  | finite (negative : Bool) (magnitude : Magnitude)
  | infinite (negative : Bool)
  | notANumber
  deriving DecidableEq, Repr

namespace Single

/-- The bit of the sign. -/
def signBits (negative : Bool) : Nat := if negative then 0x80000000 else 0

/-- The number with a sign and a magnitude of the single format; `none` stands for infinity. -/
def ofMagnitude (negative : Bool) : Option Magnitude → Single
  | none => ⟨UInt32.ofNat (signBits negative + 0x7F800000)⟩
  | some m =>
    if m.significand < 0x800000 then ⟨UInt32.ofNat (signBits negative + m.significand)⟩
    else ⟨UInt32.ofNat (signBits negative + (m.exponent + 150).toNat * 0x800000 +
      (m.significand - 0x800000))⟩

/-- The nearest number to `± num / den`. -/
def ofRatio (negative : Bool) (num den : Nat) : Single :=
  ofMagnitude negative (BinaryFormat.single.round num den)

/-- The nearest number to an integer. -/
def ofInt (n : Int) : Single := ofRatio (n < 0) n.natAbs 1

/-- The nearest number to a natural number. -/
def ofNat (n : Nat) : Single := ofRatio false n 1

/-- Infinity of either sign. -/
def infinity (negative : Bool) : Single := ofMagnitude negative none

/-- A value that is not a number. -/
def notANumber : Single := ⟨0x7FC00000⟩

/-- The value that the bits stand for. -/
def decode (x : Single) : Decoded :=
  let n := x.bits.toNat
  let negative : Bool := 0x80000000 ≤ n
  let field : Nat := n / 0x800000 % 0x100
  let fraction : Nat := n % 0x800000
  if field = 255 then
    if fraction = 0 then .infinite negative else .notANumber
  else if field = 0 then .finite negative ⟨fraction, -149⟩
  else .finite negative ⟨0x800000 + fraction, (field : Int) - 150⟩

/-- Neither infinite nor not a number. -/
def isFinite (x : Single) : Bool :=
  match x.decode with
  | .finite _ _ => true
  | _ => false

end Single

end ConfigBar.Number
