import TableQuery.Command.Arguments
import TableQuery.Command.Writing

/-!
The program.

It reads its arguments and the files that the command names, runs the command, and prints the output or the error. The
sheets of a workbook are no part of what it reads, so a workbook is reported as one that cannot be opened.
-/

namespace TableQuery

/-- The bytes of a file, if it can be read. -/
def readContent (path : String) : IO (Option FileContent) := do
  try return some (.bytes (← IO.FS.readBinFile path)) catch _ => return none

/-- Prints what the arguments ask for, or what is wrong with them. -/
def reportUsage (error : UsageError) : IO UInt32 := do
  if error = .help || error = .version then
    IO.println error.message
    return 0
  else
    IO.eprintln ("error: " ++ error.message)
    return 2

def standardOutput : Sink IO where
  write bytes := do (← IO.getStdout).write bytes
  flush := do (← IO.getStdout).flush

def runCommand (command : Command) : IO UInt32 := do
  let contents ← command.paths.mapM fun path => do return (path, ← readContent path)
  match ← (command.perform .standard (fun path => (contents.lookup path).join) standardOutput).run with
  | .ok () => return 0
  | .error failure =>
    IO.eprintln ("Error: " ++ ": ".intercalate (failure.context ++ [failure.cause]))
    return 1

end TableQuery

def main (arguments : List String) : IO UInt32 :=
  match TableQuery.Command.ofArguments arguments with
  | .ok command => TableQuery.runCommand command
  | .error error => TableQuery.reportUsage error
