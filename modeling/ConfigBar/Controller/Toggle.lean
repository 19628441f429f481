import ConfigBar.Text.Quoted
/-!
# Custom toggles

Buttons that the host defines, with a label, an icon or both. The controller keeps whether they are
selected and tells the host of changes.
-/

namespace ConfigBar

/-- A custom toggle. -/
structure Toggle where
  label : Option String
  /-- A reference that the host resolves, such as the name of an icon. -/
  icon : Option String
  tooltip : Option String
  selected : Bool
  hasFace : label.isSome ∨ icon.isSome
  deriving DecidableEq, Repr

/-- A toggle has neither a label nor an icon. -/
structure InvalidToggle where
  deriving DecidableEq, Repr

/-- The text of the error. -/
def InvalidToggle.message (_ : InvalidToggle) : String := "a custom toggle needs a label or an icon"

namespace Toggle

/-- A toggle that is not selected. -/
def make (label icon tooltip : Option String) : Except InvalidToggle Toggle :=
  if h : label.isSome ∨ icon.isSome then .ok ⟨label, icon, tooltip, false, h⟩ else .error ⟨⟩

/-- A description of the toggle for people who look for faults. -/
def description (t : Toggle) : String :=
  "CustomToggle \x7b label: " ++ Text.quotedOption t.label ++ ", icon: " ++
    Text.quotedOption t.icon ++ ", tooltip: " ++ Text.quotedOption t.tooltip ++ ", selected: " ++
    toString t.selected ++ ", .. \x7d"

end Toggle

end ConfigBar
