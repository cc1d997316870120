import Conform.Text.Split
import Conform.Text.Width

/-
  This file draws tables with lines between all cells. Each
  column is as wide as its widest cell, and a cell may have
  several lines.

  Key definitions include:
    * `Table`
    * `Table.columnWidths`
    * `Table.render`
-/

namespace Conform

/- A table: the heads of the columns, and rows of cells. -/
structure Table where
  heads : List String
  rows : List (List String)

namespace Table

------------------------------------------------------------
-- Widths
------------------------------------------------------------

/- The lines of a cell. -/
def cellLines
    (cell : String) : List (List Char) :=
  Text.pieces '\n' cell

/- The width of the widest line of a cell. -/
def cellWidth
    (cell : String) : Nat :=
  ((cellLines cell).map Text.width).foldl max 0

/- The widths of the columns. -/
def columnWidths
    (t : Table) : List Nat :=
  t.rows.foldl
    (fun widths row =>
      List.zipWith max widths (row.map cellWidth))
    (t.heads.map cellWidth)

------------------------------------------------------------
-- Lines
------------------------------------------------------------

/- The marks that a line across the table is made of. -/
structure Rule where
  left : String
  fill : Char
  between : String
  right : String

/- The line above the heads. -/
def topRule : Rule :=
  ⟨"┌", '─', "┬", "┐"⟩

/- The line below the heads. -/
def headRule : Rule :=
  ⟨"╞", '═', "╪", "╡"⟩

/- The line between rows. -/
def rowRule : Rule :=
  ⟨"├", '╌', "┼", "┤"⟩

/- The line below the rows. -/
def bottomRule : Rule :=
  ⟨"└", '─', "┴", "┘"⟩

/- A line across columns of the given widths. -/
def Rule.render
    (widths : List Nat)
    (rule : Rule) : String :=
  let parts := widths.map fun n =>
    String.ofList (List.replicate (n + 2) rule.fill)
  rule.left ++ String.intercalate rule.between parts ++
    rule.right

/- A line of cells, with a blank at both sides of each. -/
def cellsLine
    (widths : List Nat)
    (cells : List (List Char)) : String :=
  let parts := List.zipWith
    (fun n cell => String.ofList (Text.padTo n cell))
    widths cells
  "│ " ++ String.intercalate " ┆ " parts ++ " │"

/- The lines of a row, as many as its tallest cell has. -/
def rowLines
    (widths : List Nat)
    (row : List String) : List String :=
  let cells := row.map cellLines
  let height := (cells.map List.length).foldl max 0
  (List.range height).map fun i =>
    cellsLine widths (cells.map fun cell => (cell[i]?).getD [])

/- The lines of the table. -/
def lines
    (t : Table) : List String :=
  let widths := t.columnWidths
  let rows := t.rows.map (rowLines widths)
  [topRule.render widths] ++ rowLines widths t.heads ++
    [headRule.render widths] ++
    List.flatten (rows.intersperse [rowRule.render widths]) ++
    [bottomRule.render widths]

/- The table as text, without a line break at its end. -/
def render
    (t : Table) : String :=
  String.intercalate "\n" t.lines

end Table

end Conform
