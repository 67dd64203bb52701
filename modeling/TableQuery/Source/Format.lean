import TableQuery.Source.Delimited
import TableQuery.Source.Json
import TableQuery.Source.Path
import TableQuery.Source.Workbook

/-!
Formats of files, and the tables of a file in the format that its name tells.
-/

namespace TableQuery

/-- The formats that tables can be read from. -/
inductive SourceFormat where
  | csv
  | tsv
  | json
  | workbook
deriving DecidableEq

namespace SourceFormat

/-- The format that the extension of a path stands for, in any letter case. -/
def ofPath (path : String) : Except SourceError SourceFormat :=
  match Path.lowerExtension path with
  | "csv" => .ok .csv
  | "tsv" | "tab" => .ok .tsv
  | "json" => .ok .json
  | "xls" | "xlsx" | "xlsm" | "xlsb" | "ods" => .ok .workbook
  | "" => .error (.unsupportedFormat path)
  | other => .error (.unsupportedFormat ("." ++ other))

end SourceFormat

/-- The kinds of workbooks. -/
inductive WorkbookKind where
  | xls
  | xlsx
  | xlsb
  | ods
deriving DecidableEq

namespace WorkbookKind

/-- The kind of workbook that a file is opened as. The extension tells it, in small letters only. -/
def ofExtension? (extension : List Char) : Option WorkbookKind :=
  match String.ofList extension with
  | "xls" | "xla" => some .xls
  | "xlsx" | "xlsm" | "xlam" => some .xlsx
  | "xlsb" => some .xlsb
  | "ods" => some .ods
  | _ => none

end WorkbookKind

/-- What a file holds: the bytes of a text, or the sheets of a workbook of some kind. -/
inductive FileContent where
  | bytes (bytes : ByteArray)
  | sheets (sheets : List Sheet) (kind : WorkbookKind := .xlsx)

/-- The files that can be read, by path. -/
abbrev Files := String → Option FileContent

namespace Files

/-- The text of a file. The bytes of a workbook are no text. -/
def text (files : Files) (path : String) : Except FileFault String :=
  match files path with
  | none => .error .notFound
  | some (.sheets ..) => .error .notText
  | some (.bytes bytes) =>
    match String.fromUTF8? bytes with
    | some text => .ok text
    | none => .error .notText

/-- The sheets of a workbook. A workbook of another kind than the extension tells is not opened. -/
def sheets (files : Files) (path : String) : Option (List Sheet) := do
  match ← files path with
  | .sheets sheets kind => if (Path.extension? path).bind WorkbookKind.ofExtension? = some kind then sheets else none
  | .bytes _ => none

end Files

namespace Source

/-- The name of the table in a file that holds only one. -/
def tableName (path : String) : String := (Path.stem? path).getD "Data"

/-- The tables of a file. -/
def load (files : Files) (path : String) : Except SourceError Source := do
  match ← SourceFormat.ofPath path with
  | .csv => return ofDelimited (tableName path) ',' (← (files.text path).mapError .file)
  | .tsv => return ofDelimited (tableName path) '\t' (← (files.text path).mapError .file)
  | .json => ofJson (tableName path) (← (files.text path).mapError .file)
  | .workbook =>
    match files.sheets path with
    | some sheets => return ofSheets sheets
    | none => .error .notWorkbook

end Source

end TableQuery
