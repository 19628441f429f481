import ConfigBar.Qualifier.Set
/-!
# Folder names of qualifier sets

The folder name of a set is its segments in folder order with dashes between them; the empty set
has none. `ofFolder` reads such a name back. Blanks around a segment and empty segments do not
count, and the segments must be of strictly ascending kinds.
-/

namespace ConfigBar

/-- Why a text is no list of qualifiers. -/
inductive QualifierError where
  /-- The segment is of no kind. -/
  | unrecognized (segment : String)
  /-- An earlier segment is of the same kind. -/
  | duplicate (kind : Kind)
  /-- An earlier segment is of a later kind. -/
  | outOfOrder (segment : String)
  deriving DecidableEq, Repr

/-- The text of the error. -/
def QualifierError.message : QualifierError → String
  | unrecognized segment => "unrecognized qualifier segment: " ++ segment
  | duplicate kind => "qualifier " ++ kind.label ++ " appears more than once"
  | outOfOrder segment => "qualifier segment " ++ segment ++ " is out of order"

namespace QualifierSet

/-- The folder name of a set; the default configuration has none. -/
def folder? (s : QualifierSet) : Option String :=
  if s.isEmpty then none else some ("-".intercalate (s.toList.map Qualifier.segment))

/-- The segments of a folder name: the pieces between the dashes without the blanks around them,
as far as anything is left of them. -/
def segments (text : String) : List String :=
  (((Text.pieces '-' text.toList).map Text.trimChars).filter (· ≠ [])).map String.ofList

/-- Is `last`, the kind of the segment before, later than `k`? -/
def isLater (last : Option Kind) (k : Kind) : Bool := last.any fun l => k.index < l.index

/-- Reads segments into a set that already holds the earlier ones. -/
def readSegments (s : QualifierSet) (last : Option Kind) :
    List String → Except QualifierError QualifierSet
  | [] => .ok s
  | text :: rest =>
    match Qualifier.ofSegment? text with
    | none => .error (.unrecognized text)
    | some q =>
      if (s.get? q.kind).isSome then .error (.duplicate q.kind)
      else if isLater last q.kind then .error (.outOfOrder text)
      else readSegments (s.add q) (some q.kind) rest

/-- Reads a folder name. -/
def ofFolder (text : String) : Except QualifierError QualifierSet :=
  readSegments ∅ none (segments text)

end QualifierSet

end ConfigBar
