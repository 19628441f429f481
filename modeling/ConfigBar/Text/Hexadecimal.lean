/-!
# Hexadecimal digits

Reading characters as hexadecimal digits, and a number of such digits as one value.
-/

namespace ConfigBar.Text

/-- The value of a hexadecimal digit. -/
def hexValue? (c : Char) : Option Nat :=
  if '0' ≤ c ∧ c ≤ '9' then some (c.toNat - '0'.toNat)
  else if 'a' ≤ c ∧ c ≤ 'f' then some (c.toNat - 'a'.toNat + 10)
  else if 'A' ≤ c ∧ c ≤ 'F' then some (c.toNat - 'A'.toNat + 10)
  else none

/-- The value of exactly `count` digits at the front, appended to `value`, and the rest. -/
def takeHex? (value : Nat) : (count : Nat) → List Char → Option (Nat × List Char)
  | 0, cs => some (value, cs)
  | _ + 1, [] => none
  | count + 1, c :: cs => (hexValue? c).bind fun d => takeHex? (value * 16 + d) count cs

end ConfigBar.Text
