import ConfigBar.Toml.Syntax
/-!
# The tables of a TOML text

The lines of a TOML text make up nested tables. A table remembers how it came about (`Origin`),
because that decides how it may grow:

* a section opens a table once; the tables on the way to it may be opened later by sections of
  their own, unless they come from keys with points,
* a key with points goes through tables that come from such keys or lie on the way to a section, but
  may only add to the former,
* an inline table is complete where it is written,
* a section in double brackets adds a table to a list, and later sections go on with the last one.

No key is written twice.
-/

namespace ConfigBar.Toml

/-- How a table came about. -/
inductive Origin where
  /-- It is the text as a whole or a section. -/
  | opened
  /-- It lies on the way to a section. -/
  | onTheWay
  /-- It comes from a key with points. -/
  | dotted
  /-- It is written inline. -/
  | inline
  deriving DecidableEq, Repr

/-- A value in a table. -/
inductive Node where
  | scalar (value : Scalar)
  | array (items : List Node)
  | table (origin : Origin) (entries : List (String × Node))
  /-- The tables of a list that sections can add to. -/
  | tables (earlier : List (List (String × Node))) (last : List (String × Node))

/-- The entries of a table in the order in which they are written. -/
abbrev Entries := List (String × Node)

namespace Entries

/-- The value of a key. -/
def get? (key : String) (es : Entries) : Option Node := (es.find? fun e => e.1 == key).map Prod.snd

/-- Puts a value in the place of the value of its key, or at the end. -/
def put (key : String) (node : Node) : Entries → Entries
  | [] => [(key, node)]
  | e :: es => if e.1 = key then (key, node) :: es else e :: put key node es

/-- Changes the table at the end of a path. Tables that are missing on the way are made, with the
origin `new`. -/
def modify? (new : Origin) (change : Origin → Entries → Option Entries) :
    (path : List String) → Origin → Entries → Option Entries
  | [], origin, es => change origin es
  | key :: path, _, es =>
    match get? key es with
    | none => (modify? new change path new []).map fun sub => put key (.table new sub) es
    | some (.table origin sub) =>
      if origin = .inline ∨ (new = .dotted ∧ origin = .opened) then none
      else (modify? new change path origin sub).map fun sub => put key (.table origin sub) es
    | some (.tables earlier last) =>
      (modify? new change path .opened last).map fun last => put key (.tables earlier last) es
    | some _ => none

/-- Adds a value under a key that is not there yet. -/
def add? (key : String) (node : Node) (es : Entries) : Option Entries :=
  if (get? key es).isSome then none else some (es ++ [(key, node)])

/-- Adds the value of a key. A key with points only adds to tables that come from such keys. -/
def addPair? (origin : Origin) (key : Key) (node : Node) (es : Entries) : Option Entries :=
  match key.getLast? with
  | none => none
  | some last =>
    let path := key.dropLast
    modify? .dotted
      (fun found es => if found = .dotted ↔ path ≠ [] then add? last node es else none)
      path origin es

end Entries

mutual

/-- The node of a value. -/
def Value.node? : Value → Option Node
  | .scalar s => some (.scalar s)
  | .array items => (Value.nodes? items).map .array
  | .inline pairs => (Value.addPairs? pairs []).map (.table .inline)

/-- The nodes of a list of values. -/
def Value.nodes? : List Value → Option (List Node)
  | [] => some []
  | v :: vs => do some ((← v.node?) :: (← Value.nodes? vs))

/-- Adds the pairs of an inline table. -/
def Value.addPairs? : List (Key × Value) → Entries → Option Entries
  | [], es => some es
  | (key, v) :: pairs, es => do
    Value.addPairs? pairs (← Entries.addPair? .inline key (← v.node?) es)

end

/-- The pairs of a section. -/
structure Section where
  header : Header
  pairs : List (Key × Value)

/-- Splits the lines into the pairs before the first section and the sections. -/
def sections : List Line → List (Key × Value) × List Section
  | [] => ([], [])
  | .pair key v :: lines => let (front, rest) := sections lines; ((key, v) :: front, rest)
  | .header h :: lines => let (front, rest) := sections lines; ([], ⟨h, front⟩ :: rest)

/-- Adds pairs to the table of a section. -/
def addPairs? (pairs : List (Key × Value)) (es : Entries) : Option Entries :=
  pairs.foldlM (fun es p => do Entries.addPair? .opened p.1 (← p.2.node?) es) es

/-- Adds a section to the table that holds it. -/
def Section.place? (s : Section) (key : String) (es : Entries) : Option Entries :=
  match es.get? key, s.header.isItem with
  | none, false => do some (es.put key (.table .opened (← addPairs? s.pairs [])))
  | some (.table .onTheWay sub), false => do
    some (es.put key (.table .opened (← addPairs? s.pairs sub)))
  | none, true => do some (es.put key (.tables [] (← addPairs? s.pairs [])))
  | some (.tables earlier last), true => do
    some (es.put key (.tables (earlier ++ [last]) (← addPairs? s.pairs [])))
  | _, _ => none

/-- Adds a section to the tables of a text. -/
def Section.add? (es : Entries) (s : Section) : Option Entries :=
  match s.header.key.getLast? with
  | none => none
  | some last =>
    Entries.modify? .onTheWay (fun _ es => s.place? last es) s.header.key.dropLast .opened es

/-- The tables that lines make up. -/
def entries? (lines : List Line) : Option Entries := do
  let (front, rest) := sections lines
  rest.foldlM Section.add? (← addPairs? front [])

end ConfigBar.Toml
