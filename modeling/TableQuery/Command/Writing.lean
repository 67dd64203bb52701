import TableQuery.Command.Basic

/-!
Writing the output of a command.

The output goes to a sink. Rows, and summaries for other programs, are laid out whole before any of them is written;
lists of names for a reader are written piece by piece.
-/

namespace TableQuery

/-- Why an output cannot be laid out in its format, with the message of the cause. -/
inductive ExportError where
  | json (cause : String)
  | yaml (cause : String)
  | csv (cause : String)
  /-- The bytes of delimited text are not text. -/
  | notText (cause : String)

def ExportError.message : ExportError → String
  | .json cause => "JSON serialization failed: " ++ cause
  | .yaml cause => "YAML serialization failed: " ++ cause
  | .csv cause => "CSV serialization failed: " ++ cause
  | .notText cause => "CSV output is not UTF-8: " ++ cause

/-- What lays out rows under a header, and summaries of tables, in a format. -/
structure Renderer where
  rows : Format → List Row → List String → Except ExportError (List Char)
  summaries : Format → List TableSummary → Except ExportError (List Char)

/-- The renderer of the program. All rows and summaries have a layout in each format. -/
def Renderer.standard [Terminal] : Renderer where
  rows format found header := .ok (Export.render format found header)
  summaries format summaries := .ok (TableSummary.render format summaries)

/-- Why a command does not end well. -/
inductive Failure where
  | command (error : CommandError)
  | render (error : ExportError)

namespace Failure

/-- What a command was doing when it failed, from the outermost activity on. -/
def context : Failure → List String
  | .command error => error.context
  | .render _ => []

/-- The message of the first cause. -/
def cause : Failure → String
  | .command error => error.cause
  | .render error => error.message

end Failure

/-- What bytes are written to. -/
structure Sink (m : Type → Type) where
  write : ByteArray → m Unit
  flush : m Unit

namespace Sink

/-- A sink that keeps all bytes. -/
def memory : Sink (StateM ByteArray) where
  write bytes := modify (· ++ bytes)
  flush := pure ()

variable {m : Type → Type} [Monad m]

def print (sink : Sink m) (text : List Char) : m Unit := sink.write (String.ofList text).toUTF8

/-- Prints names of tables and their numbers of rows, one table on a line. -/
def printTables (sink : Sink m) (summaries : List TableSummary) : m Unit :=
  summaries.forM fun table => do
    sink.print table.name.toList
    sink.print ['\t']
    sink.print (Nat.toDigits 10 table.rows)
    sink.print ['\n']

/-- Prints names of columns, one on a line. -/
def printColumns (sink : Sink m) (columns : List String) : m Unit :=
  columns.forM fun column => do
    sink.print column.toList
    sink.print ['\n']

end Sink

namespace Command

variable {m : Type → Type} [Monad m]

/-- What a step gives that writes nothing; its error ends the command. -/
def attempt {ε α : Type} (failure : ε → Failure) (step : Except ε α) : ExceptT Failure m α :=
  ExceptT.mk (pure (step.mapError failure))

/-- Runs a command and writes its output. -/
def write (renderer : Renderer) (files : Files) (sink : Sink m) : Command → ExceptT Failure m Unit
  | .tables file format => do
    let source ← attempt .command (load files file)
    if format.isStructured then
      let text ← attempt .render (renderer.summaries format source.summaries)
      sink.print text
    else
      sink.printTables source.summaries
  | .columns file table => do
    let rows ← attempt .command (loadTable files file table)
    sink.printColumns (Row.columns rows)
  | .query request => do
    let query ← attempt .command (request.query files)
    let table ← attempt .command (loadTable files request.file request.table)
    let found := query.run table
    let text ← attempt .render (renderer.rows request.format found (header table found))
    sink.print text

/-- Runs a command, writes its output and flushes the sink. -/
def perform (renderer : Renderer) (files : Files) (sink : Sink m) (command : Command) : ExceptT Failure m Unit := do
  command.write renderer files sink
  sink.flush

end Command

end TableQuery
