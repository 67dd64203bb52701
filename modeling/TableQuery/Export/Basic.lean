import TableQuery.Delimited.Writer
import TableQuery.Export.Table
import TableQuery.Row.Json
import TableQuery.Source.Basic
import TableQuery.Yaml.Printer

/-!
Output of rows and of summaries.

Rows are written as a table, as JSON, as YAML or as delimited text. Tables and delimited text show the columns that they
are given; JSON and YAML show every row as it is.
-/

namespace TableQuery

/-- The formats of output. -/
inductive Format where
  | table
  | json
  | yaml
  | csv
deriving DecidableEq

namespace Format

/-- Whether a format is meant for other programs. -/
def isStructured : Format → Bool
  | .table => false
  | _ => true

end Format

/-- The scalar that a cell is in a YAML document; like in JSON, but numbers that are not finite are kept. -/
def Cell.toScalar : Cell → Yaml.Scalar
  | .text s => .text s.toList
  | .null => .null
  | .number n =>
    match Cell.numberToJson n with
    | .numeral (.integer i) => .integer i
    | _ => .real n

namespace Export

/-- The columns of rows as delimited text, every field in quotes. -/
def csv (rows : List Row) (columns : List String) : List Char :=
  Delimited.write .always (columns :: rows.map fun row => columns.map fun column => (row.value column).toText)

def json (rows : List Row) : List Char := (Row.tableToJson rows).pretty

def yaml (rows : List Row) : List Char :=
  Yaml.write (rows.map fun row => row.entries.map fun (column, cell) => (column.toList, cell.toScalar))

/-- Rows in a format. -/
def render [Terminal] (format : Format) (rows : List Row) (columns : List String) : List Char :=
  match format with
  | .table => table rows columns
  | .json => json rows
  | .yaml => yaml rows
  | .csv => csv rows columns

end Export

namespace TableSummary

def toJson (summary : TableSummary) : Json :=
  .object [("name", .string summary.name), ("rows", .numeral (.integer summary.rows))]

def toScalars (summary : TableSummary) : List (List Char × Yaml.Scalar) :=
  [(['n', 'a', 'm', 'e'], .text summary.name.toList), (['r', 'o', 'w', 's'], .integer summary.rows)]

/-- Summaries as delimited text under a header; without summaries there is no header either. -/
def delimited (quoting : Delimited.Quoting) (summaries : List TableSummary) : List Char :=
  if summaries.isEmpty then []
  else
    Delimited.write quoting
      (["name", "rows"] :: summaries.map fun s => [s.name, String.ofList (Nat.toDigits 10 s.rows)])

/-- Summaries in a format. -/
def render (format : Format) (summaries : List TableSummary) : List Char :=
  match format with
  | .table => delimited .whenNeeded summaries
  | .csv => delimited .always summaries
  | .json => (Json.array (summaries.map toJson)).pretty
  | .yaml => Yaml.write (summaries.map toScalars)

end TableSummary

end TableQuery
