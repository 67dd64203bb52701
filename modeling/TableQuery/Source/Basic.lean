import TableQuery.Row.Basic
import TableQuery.Json.Decode

/-!
Sources.

A source is the tables found in one file, by name and in the order of the file. A table that comes again under the same
name replaces the earlier one in its place.
-/

namespace TableQuery

/-- Why a document holds no tables. -/
inductive DataFault where
  /-- It is neither a list of rows nor an object of tables. -/
  | notTables
  /-- A member that should be a table is not a list. -/
  | notTable (name : String)
  /-- An item of a table, counted from one, is not a row. -/
  | notRow (table : String) (index : Nat) (found : Json)

/-- The kind of a document, with an article. -/
def Json.kindName : Json → String
  | .null => "null"
  | .bool _ => "a boolean"
  | .numeral _ => "a number"
  | .string _ => "a string"
  | .array _ => "an array"
  | .object _ => "an object"

def DataFault.message : DataFault → String
  | .notTables => "expected an array of objects or an object of tables"
  | .notTable name => "table '" ++ name ++ "' is not an array of objects"
  | .notRow table index found =>
    "table '" ++ table ++ "' row " ++ String.ofList (Nat.toDigits 10 index) ++ ": expected an object, found " ++
      found.kindName

/-- Why a file cannot be read. -/
inductive FileFault where
  | notFound
  /-- The bytes of the file are not text. -/
  | notText
deriving DecidableEq

def FileFault.message : FileFault → String
  | .notFound => "No such file or directory (os error 2)"
  | .notText => "stream did not contain valid UTF-8"

/-- Why a table cannot be had. -/
inductive SourceError where
  | file (fault : FileFault)
  | json (error : Json.DecodeError)
  | notWorkbook
  /-- No format goes with the name of the file. -/
  | unsupportedFormat (what : String)
  | invalidData (fault : DataFault)
  | unknownTable (name : String)
  | noTables

/-- What is wrong; what the reader of workbooks says of a file is left out. -/
def SourceError.message : SourceError → String
  | .file fault => "IO error: " ++ fault.message
  | .json error => "JSON parse error: " ++ error.message
  | .notWorkbook => "workbook error: "
  | .unsupportedFormat what => "unsupported file format: " ++ what
  | .invalidData fault => "invalid data: " ++ fault.message
  | .unknownTable name => "no table named '" ++ name ++ "'"
  | .noTables => "source has no tables"

/-- The tables of a file. -/
abbrev Source := OrderedMap (List Row)

/-- The name of a table and the number of its rows. -/
structure TableSummary where
  name : String
  rows : Nat
deriving DecidableEq

namespace Source

def single (name : String) (rows : List Row) : Source := OrderedMap.empty.insert name rows

/-- The first table with its name. -/
def first? (source : Source) : Option (String × List Row) := source.entries.head?

def summaries (source : Source) : List TableSummary := source.entries.map fun (name, rows) => ⟨name, rows.length⟩

/-- The named table, or the first one if no name is given. -/
def select (source : Source) : Option String → Except SourceError (String × List Row)
  | some name =>
    match source.get? name with
    | some rows => .ok (name, rows)
    | none => .error (.unknownTable name)
  | none =>
    match source.first? with
    | some table => .ok table
    | none => .error .noTables

end Source

end TableQuery
