import ConfigBar.Number.Numeral
/-!
# JSON values

A JSON value keeps its text closely: numbers stay numerals, members of an object stay in the order
in which they are written, repeated keys included. A string whose escapes name half of a surrogate
pair denotes no text; it is a value all the same, because a reader may skip it.
-/

namespace ConfigBar

open ConfigBar.Number (Numeral)

/-- The text of a JSON string; `none` if one of its escapes denotes no character. -/
abbrev JsonText := Option String

/-- A JSON value. -/
inductive Json where
  | null
  | bool (value : Bool)
  | number (numeral : Numeral)
  | string (text : JsonText)
  | array (items : List Json)
  | object (members : List (JsonText × Json))
  deriving Repr

namespace Json

/-- A string with text. -/
def str (s : String) : Json := .string (some s)

/-- A natural number. -/
def nat (n : Nat) : Json := .number (.ofNat n)

/-- An object with the given members. -/
def obj (members : List (String × Json)) : Json := .object (members.map fun m => (some m.1, m.2))

/-- A list of strings. -/
def strs (ss : List String) : Json := .array (ss.map str)

/-- A value that may be missing. -/
def opt {α : Type} (f : α → Json) : Option α → Json
  | none => .null
  | some a => f a

mutual

/-- How many arrays and objects are nested in a value, itself included. -/
def depth : Json → Nat
  | .array items => depthItems items + 1
  | .object members => depthMembers members + 1
  | _ => 0

/-- The depth of the deepest item. -/
def depthItems : List Json → Nat
  | [] => 0
  | v :: vs => max (depth v) (depthItems vs)

/-- The depth of the deepest member. -/
def depthMembers : List (JsonText × Json) → Nat
  | [] => 0
  | (_, v) :: ms => max (depth v) (depthMembers ms)

end

end Json

end ConfigBar
