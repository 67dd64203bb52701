import TableQuery.OrderedMap
import TableQuery.Cell.Basic

/-!
Rows.

A row maps column names to cells, in the order in which its columns were first set. A table is a list of rows, which
need not all have the same columns.
-/

namespace TableQuery

/-- One row of a table. -/
abbrev Row := OrderedMap Cell

namespace Row

/-- The cell under a column; an absent column reads as an empty cell. -/
def value (row : Row) (column : String) : Cell := (row.get? column).getD .null

/-- Equality of rows: the same columns in the same order, with cells of equal value. -/
def sameValue (a b : Row) : Bool :=
  a.names == b.names && (a.entries.zip b.entries).all fun (x, y) => x.2.sameValue y.2

/-- The columns of a table: those of its first row. -/
def columns (rows : List Row) : List String := (rows.head?.map OrderedMap.names).getD []

@[simp]
theorem columns_nil : columns [] = [] := rfl

@[simp]
theorem columns_cons (row : Row) (rows : List Row) : columns (row :: rows) = row.names := rfl

end Row

end TableQuery
