import ConfigBar.Resource.Value
import ConfigBar.Text.Pieces
/-!
# Parents of styles

A style names its parent by a reference such as `@android:style/Theme`, or, without one, by its own
name up to the last point: `MyTheme.Big` extends `MyTheme`. Of a reference one `@`, then one
`android:`, then one `style/` are taken away; `android:` makes it a reference to the framework.
-/

namespace ConfigBar

/-- A framework style is a theme if it is called `Theme` or starts with `Theme.`. -/
def isFrameworkThemeName (name : String) : Bool :=
  name == "Theme" || (Text.after? "Theme.".toList name.toList).isSome

/-- The parent of a style. -/
structure Parent where
  name : String
  /-- The reference names a style of the framework. -/
  isFramework : Bool
  deriving DecidableEq, Repr

namespace Parent

/-- Takes `front` away if `cs` starts with it. -/
def without (front : String) (cs : List Char) : List Char :=
  (Text.after? front.toList cs).getD cs

/-- The parent that a reference names. -/
def ofReference (reference : String) : Parent :=
  let cs := without "@" reference.toList
  match Text.after? "android:".toList cs with
  | some rest => ⟨String.ofList (without "style/" rest), true⟩
  | none => ⟨String.ofList (without "style/" cs), false⟩

/-- The parent that the name of a style implies. -/
def ofName? (name : String) : Option Parent :=
  (Text.beforeLast? '.' name.toList).map fun front => ⟨String.ofList front, false⟩

end Parent

/-- The parent of a value, by its reference or by its name. Simple values have none. -/
def ResourceValue.parentStyle? : ResourceValue → Option Parent
  | .style _ (some reference) => some (.ofReference reference)
  | .style name none => Parent.ofName? name
  | .simple _ _ => none

end ConfigBar
