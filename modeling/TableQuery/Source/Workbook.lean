import TableQuery.Source.Basic
import TableQuery.Row.Json

/-!
Tables from workbooks.

Every sheet is a table. Its first row names the columns: a cell without content is named `__EMPTY`, and the second and
later cells of one name get a number behind it. In the rows below, cells without content and cells that hold a date or a
duration are left out, and a row with no cell left is no row.
-/

namespace TableQuery

/-- What a cell of a sheet holds. -/
inductive SheetCell where
  | empty
  | text (s : String)
  /-- A number, be it stored as an integer or not. -/
  | number (n : Number)
  | bool (b : Bool)
  /-- A day or a duration, as a serial number. -/
  | serial (n : Number)
  /-- An error, by its text. -/
  | error (s : String)
  /-- A point of time, by its text. -/
  | time (s : String)
deriving DecidableEq

/-- The cells of a sheet from its first row and column that hold any; all rows have the same length. -/
abbrev Grid := List (List SheetCell)

/-- The name of a sheet, and the grid that is found in the workbook by the name. -/
structure Sheet where
  name : String
  grid : Grid

namespace SheetCell

def ofBool (b : Bool) : String := if b then "true" else "false"

/-- A cell as it names a column. -/
def header : SheetCell → String
  | .empty => "__EMPTY"
  | .text s | .error s | .time s => s
  | .number n | .serial n => Layout.plain.render n
  | .bool b => ofBool b

/-- A cell as a row takes it, unless it is left out. -/
def toCell? : SheetCell → Option Cell
  | .empty | .serial _ => none
  | .text s | .error s | .time s => some (.text s)
  | .number n => some (.number n)
  | .bool b => some (.text (ofBool b))

end SheetCell

namespace Grid

/-- The name of a column whose header has come `count` times before. -/
def numbered (base : String) (count : Nat) : String :=
  if count = 0 then base else base ++ "_" ++ String.ofList (Nat.toDigits 10 count)

/-- The column names for headers, given the headers before them. -/
def nameColumns (before : List String) : List String → List String
  | [] => []
  | base :: rest => numbered base (before.count base) :: nameColumns (base :: before) rest

/-- The column names of a header row. -/
def columnNames (cells : List SheetCell) : List String := nameColumns [] (cells.map SheetCell.header)

/-- The row of the cells under some columns. -/
def toRow (columns : List String) (cells : List SheetCell) : Row :=
  (columns.zip cells).foldl
    (fun row (column, cell) => match cell.toCell? with
      | some value => row.insert column value
      | none => row)
    OrderedMap.empty

/-- The rows of a grid, the first of which is the header. -/
def rows : Grid → List Row
  | [] => []
  | header :: lines => (lines.map (toRow (columnNames header))).filter (!·.isEmpty)

end Grid

/-- The cells that a sheet stores, row by row, with `none` where it stores none. -/
abbrev StoredCells := List (List (Option SheetCell))

namespace StoredCells

/-- The columns that are empty in every row, at the left. -/
def leadingColumns (rows : StoredCells) : Nat :=
  ((rows.filter (·.any Option.isSome)).map fun row => (row.takeWhile Option.isNone).length).min?.getD 0

/-- The number of columns up to the last one that is not empty in every row. -/
def usedColumns (rows : StoredCells) : Nat :=
  (rows.map fun row => row.length - (row.reverse.takeWhile Option.isNone).length).max?.getD 0

/-- The smallest rectangle that holds all stored cells. -/
def grid (rows : StoredCells) : Grid :=
  let unused (row : List (Option SheetCell)) : Bool := row.all Option.isNone
  let used := ((rows.dropWhile unused).reverse.dropWhile unused).reverse
  let left := leadingColumns rows
  let right := usedColumns rows
  used.map fun row =>
    ((row ++ List.replicate (right - row.length) none).take right).drop left |>.map (·.getD .empty)

end StoredCells

namespace Source

/-- The tables of the sheets of a workbook. The grid of a sheet is the one that its name finds in the workbook, so
sheets of one name come with one grid. -/
def ofSheets (sheets : List Sheet) : Source :=
  sheets.foldl (fun source sheet => source.insert sheet.name sheet.grid.rows) OrderedMap.empty

end Source

end TableQuery
