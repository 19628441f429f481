import ConfigBar.Text.Width.Sequence
/-!
# Widths of texts

The columns that a text takes on a screen. A control character takes one column, and a line feed
after a carriage return takes none of its own.
-/

namespace ConfigBar.Text

/-- The columns of a list of characters, and the outlook at its front. -/
def measure (cs : List Char) : Int × Outlook :=
  cs.foldr (fun c p => let (columns, o) := Outlook.step c p.2; (p.1 + columns, o)) (0, .final)

/-- The columns of a list of characters. -/
def charsWidth (cs : List Char) : Nat := (measure cs).1.toNat

/-- The columns of a text. -/
def width (s : String) : Nat := charsWidth s.toList

end ConfigBar.Text
