/-!
# Ranges of characters

A set of characters as the ranges of their code points, by first and last. A long table is cut into
parts.
-/

namespace ConfigBar.Text

/-- Is a code point in one of the ranges? -/
def inRanges (ranges : List (Nat × Nat)) (n : Nat) : Bool :=
  ranges.any fun r => r.1 ≤ n && n ≤ r.2

/-- Is a character in one of the parts of a table? -/
def isAmong (parts : List (List (Nat × Nat))) (c : Char) : Bool :=
  parts.any fun ranges => inRanges ranges c.toNat

end ConfigBar.Text
