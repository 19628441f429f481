import ConfigBar.Json.Number
/-!
# Reading records from JSON

What the readers of the domain types share: finding the fields of an object, and the conditions on
a value that has to be held back until another field is known.
-/

namespace ConfigBar.Json

/-- The value of a field: `some none` if it is missing, `none` if it is there more than once. -/
def field? (name : String) (members : List (JsonText × Json)) : Option (Option Json) :=
  match members.filter fun m => m.1 = some name with
  | [] => some none
  | [m] => some (some m.2)
  | _ => none

/-- Has every key a text? -/
def hasKeys (members : List (JsonText × Json)) : Bool := members.all fun m => m.1.isSome

mutual

/-- Has every string in a value a text and every number a value? -/
def isComplete : Json → Bool
  | .number n => isInRange n
  | .string t => t.isSome
  | .array items => areComplete items
  | .object members => membersAreComplete members
  | _ => true

/-- Are all items complete? -/
def areComplete : List Json → Bool
  | [] => true
  | v :: vs => isComplete v && areComplete vs

/-- Are all members complete, keys included? -/
def membersAreComplete : List (JsonText × Json) → Bool
  | [] => true
  | (k, v) :: ms => k.isSome && isComplete v && membersAreComplete ms

end

/-- A value that is held back may be nested this deep. -/
def heldDepth : Nat := 126

/-- Can a value be held back? Unlike a value that is skipped, it must be complete and not nested
too deep. -/
def canBeHeld (v : Json) : Bool := isComplete v && v.depth ≤ heldDepth

/-- The text of a string. -/
def text? : Json → Option String
  | .string t => t
  | _ => none

/-- A text or null. -/
def optionalText? : Json → Option (Option String)
  | .string (some s) => some (some s)
  | .null => some none
  | _ => none

/-- A natural number. -/
def nat? : Json → Option Nat
  | .number n => natural? n
  | _ => none

end ConfigBar.Json
