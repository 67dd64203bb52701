import TableQuery.Export.Terminal
import TableQuery.Row.Basic
import TableQuery.Text.Blank

/-!
Tables for terminals.

A table is a header line, a rule, and a line for every row. Each column is as wide as its widest text and padded with
blanks on the right; columns are two blanks apart. Blanks at the end of a line are dropped.
-/

namespace TableQuery.Export

variable [Terminal]

/-- The width of a column: that of its name or of its widest cell. -/
def columnWidth (rows : List Row) (column : String) : Nat :=
  (rows.map fun row => Terminal.width (row.value column).toText.toList).foldl max (Terminal.width column.toList)

/-- A text with blanks on its right up to a width; it is never cut. -/
def pad (width : Nat) (text : List Char) : List Char := text ++ List.replicate (width - Terminal.width text) ' '

/-- Texts padded to their widths and two blanks apart. -/
def spread (widths : List Nat) (texts : List (List Char)) : List Char :=
  List.intercalate [' ', ' '] (List.zipWith pad widths texts)

/-- A line of a table. -/
def tableLine (widths : List Nat) (texts : List (List Char)) : List Char :=
  Text.trimEnd (spread widths texts) ++ ['\n']

/-- The texts of a row under some columns. -/
def rowTexts (columns : List String) (row : Row) : List (List Char) :=
  columns.map fun column => (row.value column).toText.toList

/-- The columns of rows as a table; without columns there is none. -/
def table (rows : List Row) (columns : List String) : List Char :=
  if columns.isEmpty then []
  else
    let widths := columns.map (columnWidth rows)
    tableLine widths (columns.map String.toList) ++
      tableLine widths (widths.map fun width => List.replicate width '-') ++
      rows.flatMap fun row => tableLine widths (rowTexts columns row)

end TableQuery.Export
