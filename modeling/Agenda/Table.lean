import Agenda.Task.Basic
import Agenda.Text.Width

/-! # Tables of tasks

A list of tasks as a table of plain characters: one row for each task under a heading, every column
as wide as its widest line. A cell with several lines makes its row as high as it needs.
-/

namespace Agenda.Table

abbrev Cell := List (List Char)

def cell (text : String) : Cell :=
  Fields.split '\n' text.toList

def heading : List Cell :=
  ["ID", "Date", "Title", "Repeat", "Comment"].map cell

/-- The displayed form of a stored date. Any other text is shown as it is. -/
def dateCell (date : String) : Cell :=
  match Date.ofText? date with
  | some date => cell date.displayText
  | none => cell date

/-- The canonical text of a rule. Any other text is shown as it is. -/
def repeatCell (task : Task) : Cell :=
  match task.rule with
  | .ok rule => cell rule.text
  | .error _ => cell task.repeatText

def row (task : Task) : List Cell :=
  [cell task.id, dateCell task.date, cell task.title, repeatCell task, cell task.comment]

def cellWidth (cell : Cell) : Nat :=
  (cell.map Width.columns).foldl Nat.max 0

def columnWidths (rows : List (List Cell)) : List Nat :=
  rows.foldr (fun row widths => List.zipWith Nat.max (row.map cellWidth) widths)
    (heading.map fun _ => 0)

/-- A line across the table: a run of `fill` for each column, with `between` where they meet. -/
def rule (left between right fill : Char) (widths : List Nat) : List Char :=
  left :: Fields.join between (widths.map fun width => List.replicate (width + 2) fill) ++ [right]

/-- One line of a cell, filled up with blanks to the width of its column. -/
def fillLine (width : Nat) (line : List Char) : List Char :=
  ' ' :: line ++ List.replicate (width - Width.columns line) ' ' ++ [' ']

/-- The lines of a row. Cells with fewer lines than others are filled up with empty ones. -/
def rowLines (widths : List Nat) (row : List Cell) : List (List Char) :=
  let height := (row.map List.length).foldl Nat.max 0
  (List.range height).map fun i =>
    '|' :: Fields.join '|' (List.zipWith (fun width cell => fillLine width (cell.getD i []))
      widths row) ++ ['|']

/-- The lines of rows, with a line across between each two. -/
def bodyLines (widths : List Nat) : List (List Cell) → List (List Char)
  | [] => []
  | [row] => rowLines widths row
  | row :: rest =>
    rowLines widths row ++ rule '|' '+' '|' '-' widths :: bodyLines widths rest

def lines (tasks : List Task) : List (List Char) :=
  let rows := tasks.map row
  let widths := columnWidths (heading :: rows)
  let border := rule '+' '+' '+' '-' widths
  border :: rowLines widths heading ++ rule '+' '=' '+' '=' widths :: bodyLines widths rows ++
    [border]

/-- The text that shows some tasks, without an end of line. -/
def render (tasks : List Task) : String :=
  if tasks.isEmpty then "No tasks found."
  else String.ofList (Fields.join '\n' (lines tasks))

end Agenda.Table
