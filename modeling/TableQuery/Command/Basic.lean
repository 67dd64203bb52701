import TableQuery.Export.Basic
import TableQuery.Query.Flags
import TableQuery.Query.Yaml
import TableQuery.Source.Format

/-!
Commands.

Three commands work on a file: `tables` lists its tables, `columns` lists the columns of a table, and `query` runs a
query on a table. A command gives all of its output or fails without any.
-/

namespace TableQuery

/-- Where the query of a command starts from. -/
inductive QueryBase where
  | none
  | file (path : String)
  | inline (text : String)
deriving DecidableEq

/-- What a `query` command is asked for. -/
structure QueryRequest where
  file : String
  table : Option String
  base : QueryBase
  search : List SearchTerm
  sorting : Option Sorting
  format : Format

inductive Command where
  | tables (file : String) (format : Format)
  | columns (file : String) (table : Option String)
  | query (request : QueryRequest)

/-- Why a command fails. -/
inductive CommandError where
  | load (path : String) (error : SourceError)
  | select (error : SourceError)
  | readQuery (path : String) (fault : FileFault)
  | parseQuery (path : String) (error : QueryError)
  | parseInlineQuery (error : QueryError)

namespace CommandError

/-- What a command was doing when it failed, from the outermost activity on. -/
def context : CommandError → List String
  | .load path _ => ["failed to load " ++ path]
  | .select _ => []
  | .readQuery path _ => ["failed to read model " ++ path]
  | .parseQuery path _ => ["failed to parse model " ++ path]
  | .parseInlineQuery _ => ["failed to parse --model-json"]

/-- The message of the first cause. -/
def cause : CommandError → String
  | .load _ error | .select error => error.message
  | .readQuery _ fault => fault.message
  | .parseQuery _ error | .parseInlineQuery error => error.message

end CommandError

namespace QueryBase

/-- The query that a base holds. -/
def read (files : Files) : QueryBase → Except CommandError Query
  | .none => .ok {}
  | .file path => do
    let text ← (files.text path).mapError (.readQuery path)
    ((QueryFormat.ofPath path).read text).mapError (.parseQuery path)
  | .inline text => (QueryFormat.json.read text).mapError .parseInlineQuery

end QueryBase

namespace QueryRequest

/-- The query that is asked for: the base with the terms and the sorting of the flags. -/
def query (files : Files) (request : QueryRequest) : Except CommandError Query := do
  return (← request.base.read files).withFlags request.search request.sorting

end QueryRequest

namespace Command

def load (files : Files) (path : String) : Except CommandError Source := (Source.load files path).mapError (.load path)

/-- The rows of a table of a file. -/
def loadTable (files : Files) (path : String) (table : Option String) : Except CommandError (List Row) := do
  return (← ((← load files path).select table).mapError .select).2

def lines (texts : List String) : List Char := texts.flatMap fun text => text.toList ++ ['\n']

/-- The tables of a source, one on a line or in a format for programs. -/
def renderTables (format : Format) (summaries : List TableSummary) : List Char :=
  if format.isStructured then TableSummary.render format summaries
  else lines (summaries.map fun s => s.name ++ "\t" ++ String.ofList (Nat.toDigits 10 s.rows))

/-- The header over the rows that a query finds in a table: their columns, or those of the table if they have none. -/
def header (table found : List Row) : List String :=
  if (Row.columns found).isEmpty then Row.columns table else Row.columns found

/-- The output of a command. -/
def run [Terminal] (files : Files) : Command → Except CommandError (List Char)
  | .tables file format => do return renderTables format (← load files file).summaries
  | .columns file table => do return lines (Row.columns (← loadTable files file table))
  | .query request => do
    let query ← request.query files
    let table ← loadTable files request.file request.table
    let found := query.run table
    return Export.render request.format found (header table found)

/-- The paths of the files that a command reads. -/
def paths : Command → List String
  | .tables file _ | .columns file _ => [file]
  | .query request =>
    match request.base with
    | .file path => [path, request.file]
    | _ => [request.file]

end Command

end TableQuery
