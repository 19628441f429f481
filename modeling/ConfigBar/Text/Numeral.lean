/-!
# Whole numbers in decimal

Reading and bounding the decimal numerals of folder segments and command line options. Leading
zeros are allowed; only the ASCII digits are digits.
-/

namespace ConfigBar.Text

/-- The value of a non-empty list of decimal digits. -/
def natOfDigits? (cs : List Char) : Option Nat :=
  if cs ≠ [] ∧ cs.all Char.isDigit then some (Nat.ofDigitChars 10 cs 0) else none

/-- The value of decimal digits that may follow one plus sign. -/
def natOfSigned? : List Char → Option Nat
  | '+' :: cs => natOfDigits? cs
  | cs => natOfDigits? cs

/-- A number as a 16 bit word, if it fits. -/
def word16? (n : Nat) : Option UInt16 := if n < UInt16.size then some (UInt16.ofNat n) else none

/-- A number as a 32 bit word, if it fits. -/
def word32? (n : Nat) : Option UInt32 := if n < UInt32.size then some (UInt32.ofNat n) else none

/-- The decimal digits of a number, without leading zeros. -/
def digits (n : Nat) : List Char := Nat.toDigits 10 n

theorem toList_toString_nat (n : Nat) : (toString n).toList = digits n := by
  simp [digits]

theorem digits_ne_nil (n : Nat) : digits n ≠ [] := Nat.toDigits_ne_nil

theorem all_isDigit_digits (n : Nat) : (digits n).all Char.isDigit = true := by
  rw [List.all_eq_true]
  intro c hc
  exact Nat.isDigit_of_mem_toDigits (by decide) (by decide) hc

theorem natOfDigits?_digits (n : Nat) : natOfDigits? (digits n) = some n := by
  simp [natOfDigits?, digits_ne_nil, all_isDigit_digits]
  exact Nat.ofDigitChars_ten_toDigits

end ConfigBar.Text
