import ConfigBar.Number.Single
/-!
# The syntax of TOML

A TOML text is a list of lines that write a value under a key or open a section. `Line` keeps them
as they are written; which tables they make up is decided by `Toml.Table`.

Keys are never empty: a key of several parts, written with points between them, names a place in
nested tables.
-/

namespace ConfigBar.Toml

open ConfigBar.Number (Decoded)

/-- A value without parts. -/
inductive Scalar where
  | flag (value : Bool)
  /-- An integer and its value, if it has one. -/
  | integer (value : Option Int)
  /-- A number of double precision and its value, if it has one. -/
  | float (value : Option Decoded)
  | text (value : String)
  /-- A date, a time of day or both, in its normal form. -/
  | moment (text : String)
  deriving DecidableEq, Repr

/-- The parts of a key. -/
abbrev Key := List String

/-- How many parts a key may have. -/
def partLimit : Nat := 80

/-- A value as it is written. -/
inductive Value where
  | scalar (value : Scalar)
  | array (items : List Value)
  | inline (pairs : List (Key × Value))

mutual

/-- How many arrays and inline tables are nested in a value, itself included. -/
def Value.depth : Value → Nat
  | .scalar _ => 0
  | .array items => depthItems items + 1
  | .inline pairs => depthPairs pairs + 1

/-- The depth of the deepest item. -/
def depthItems : List Value → Nat
  | [] => 0
  | v :: vs => max v.depth (depthItems vs)

/-- The depth of the deepest value of a pair. -/
def depthPairs : List (Key × Value) → Nat
  | [] => 0
  | (_, v) :: ps => max v.depth (depthPairs ps)

end

/-- The opening of a section. -/
structure Header where
  key : Key
  /-- The section is a further table of a list, in double brackets. -/
  isItem : Bool

/-- A line of a TOML text. -/
inductive Line where
  | pair (key : Key) (value : Value)
  | header (header : Header)

/-- How deep the value of a line is nested. -/
def Line.depth : Line → Nat
  | pair _ value => value.depth
  | header _ => 0

end ConfigBar.Toml
