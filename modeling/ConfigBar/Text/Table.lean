import ConfigBar.Text.Width
import ConfigBar.Text.Terminal
import ConfigBar.Text.Style
/-!
# Tables

A table with round corners: a line of titles, a double line, and the rows, with dashed lines between
the columns. Every column is as wide as its widest line of text, and there is one blank on both
sides. A cell may have several lines, each of which keeps the styles of the text and ends without
one; control sequences take no columns.
-/

namespace ConfigBar

/-- A column of a table. -/
structure Column where
  title : String
  alignRight : Bool
  deriving DecidableEq, Repr

/-- A table. -/
structure TextTable where
  columns : List Column
  rows : List (List String)
  deriving DecidableEq, Repr

namespace TextTable

/-- The lines of a cell. -/
def cellLines (cell : String) : List String :=
  (Text.styledLines [] (Text.pieces '\n' cell.toList)).map String.ofList

/-- The columns that a line of a cell takes. -/
def lineWidth (line : String) : Nat := Text.charsWidth (Text.shown line.toList)

/-- The columns that a cell takes. -/
def cellWidth (cell : String) : Nat := ((cellLines cell).map lineWidth).foldl max 0

/-- The titles. -/
def titles (t : TextTable) : List String := t.columns.map Column.title

/-- The width of each column. -/
def widths (t : TextTable) : List Nat :=
  (t.titles :: t.rows).foldl (fun ws row => List.zipWith max ws (row.map cellWidth))
    (t.columns.map fun _ => 0)

/-- Fills a line of a cell up to the width of its column. -/
def pad (alignRight : Bool) (width : Nat) (line : String) : String :=
  let fill := String.ofList (List.replicate (width - lineWidth line) ' ')
  if alignRight then fill ++ line else line ++ fill

/-- A horizontal line: its left end, its stroke, its crossings and its right end. -/
def rule (left : String) (stroke : Char) (crossing right : String) (widths : List Nat) : String :=
  left ++
    crossing.intercalate (widths.map fun w => String.ofList (List.replicate (w + 2) stroke)) ++ right

/-- One line of a row. -/
def rowLine (t : TextTable) (widths : List Nat) (row : List (List String)) (i : Nat) : String :=
  let cells := List.zipWith
    (fun (c : Column × Nat) (lines : List String) => pad c.1.alignRight c.2 (lines[i]?.getD ""))
    (t.columns.zip widths) row
  "│ " ++ " ┆ ".intercalate cells ++ " │"

/-- The lines of a row: as many as its cell with the most lines has. -/
def rowLines (t : TextTable) (widths : List Nat) (row : List String) : List String :=
  let cells := row.map cellLines
  (List.range ((cells.map List.length).foldl max 0)).map (t.rowLine widths cells)

/-- The lines of a table. -/
def lines (t : TextTable) : List String :=
  let ws := t.widths
  [rule "╭" '─' "┬" "╮" ws] ++ t.rowLines ws t.titles ++ [rule "╞" '═' "╪" "╡" ws] ++
    t.rows.flatMap (t.rowLines ws) ++ [rule "╰" '─' "┴" "╯" ws]

/-- A table as text, in which every line ends with a line feed. -/
def text (t : TextTable) : String := String.join (t.lines.map (· ++ "\n"))

end TextTable

end ConfigBar
