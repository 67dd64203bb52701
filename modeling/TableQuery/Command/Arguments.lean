import TableQuery.Command.Basic

/-!
Reading of arguments.

A command is a name, flags and the path of a file. A flag with a value takes it from the same argument (`-ocsv`,
`-o=csv`, `--output=csv`) or from the next one. The value of a flag is read when the next flag or the end of the
arguments is reached, so of several faults the one that is met first in that order counts. Behind `--` there are no
flags.
-/

namespace TableQuery

/-- Why arguments are no command. -/
inductive UsageError where
  /-- A value is missing, or is none of those that are allowed. -/
  | invalidValue
  | rejectedValue (error : FlagError)
  /-- A flag without a value is given one. -/
  | surplusValue
  /-- Two flags exclude each other, or a flag is given twice. -/
  | conflict
  | missingFile
  | unknownArgument
  | unknownCommand
  | missingCommand
  | noArguments
  /-- The arguments ask for help. -/
  | help
  /-- The arguments ask for the version. -/
  | version
deriving DecidableEq

namespace UsageError

/-- What is wrong with the arguments, or the text that they ask for. It stands for the longer text of a reader of
arguments; only the reason why a value is rejected is part of both. -/
def message : UsageError → String
  | .invalidValue => "a value is missing or not allowed"
  | .rejectedValue error => error.message
  | .surplusValue => "a flag is given a value that it does not have"
  | .conflict => "two flags cannot be used together"
  | .missingFile => "no file is given"
  | .unknownArgument => "an argument is not known"
  | .unknownCommand => "the command is not known"
  | .missingCommand | .noArguments => "no command is given"
  | .help =>
    "tabseek tables  <FILE> [--output FMT]\n" ++
      "tabseek columns <FILE> [--table T]\n" ++
      "tabseek query   <FILE> [--table T] [--model PATH | --model-json JSON]\n" ++
      "                [--search COL=VALUE]... [--sort COL[:asc|desc]] [--output FMT]"
  | .version => "tabseek 0.1.0"

end UsageError

def Format.ofName? (name : String) : Option Format :=
  match name with
  | "table" => some .table
  | "json" => some .json
  | "yaml" => some .yaml
  | "csv" => some .csv
  | _ => none

/-- The flags that have a value. -/
inductive Flag where
  | table
  | model
  | modelJson
  | search
  | sort
  | output
deriving DecidableEq

/-- The names of the commands. -/
inductive CommandName where
  | tables
  | columns
  | query
deriving DecidableEq

namespace CommandName

def ofText? (text : String) : Option CommandName :=
  match text with
  | "tables" => some .tables
  | "columns" => some .columns
  | "query" => some .query
  | _ => none

/-- The flags of a command. -/
def flags : CommandName → List Flag
  | .tables => [.output]
  | .columns => [.table]
  | .query => [.table, .model, .modelJson, .search, .sort, .output]

end CommandName

namespace Flag

/-- The flag of a long name. -/
def ofName? (name : List Char) : Option Flag :=
  match String.ofList name with
  | "table" => some .table
  | "model" => some .model
  | "model-json" => some .modelJson
  | "search" => some .search
  | "sort" => some .sort
  | "output" => some .output
  | _ => none

/-- The flag of a letter. -/
def ofLetter? (letter : Char) : Option Flag :=
  match letter with
  | 't' => some .table
  | 'm' => some .model
  | 's' => some .search
  | 'o' => some .output
  | _ => none

end Flag

/-- A value whose reading is put off. -/
inductive Pending where
  | none
  /-- A flag whose value is the next argument. -/
  | awaited (flag : Flag)
  | value (flag : Flag) (value : String)
  | file (path : String)

/-- What the arguments have said so far. -/
structure Settings where
  file : Option String := none
  table : Option String := none
  model : Option String := none
  modelJson : Option String := none
  search : List SearchTerm := []
  sorting : Option Sorting := none
  format : Option Format := none
  pending : Pending := .none

namespace Settings

/-- A value for a setting that has none yet. -/
def fresh {α : Type} (current : Option α) (value : Except UsageError α) : Except UsageError (Option α) :=
  if current.isSome then .error .conflict else some <$> value

/-- A path must not be empty. -/
def path (text : String) : Except UsageError String := if text = "" then .error .invalidValue else .ok text

/-- Takes up the value of a flag. -/
def set (s : Settings) (flag : Flag) (value : String) : Except UsageError Settings :=
  match flag with
  | .table => do return { s with table := ← fresh s.table (.ok value) }
  | .model => do return { s with model := ← fresh s.model (path value) }
  | .modelJson => do return { s with modelJson := ← fresh s.modelJson (.ok value) }
  | .search => do
    return { s with search := s.search ++ [← (SearchTerm.ofFlag value).mapError .rejectedValue] }
  | .sort => do
    return { s with sorting := ← fresh s.sorting ((Sorting.ofFlag value).mapError .rejectedValue) }
  | .output => do
    let format := match Format.ofName? value with
      | some format => .ok format
      | none => .error .invalidValue
    return { s with format := ← fresh s.format format }

/-- Reads the value whose reading was put off. -/
def settle (s : Settings) : Except UsageError Settings :=
  let settled := { s with pending := .none }
  match s.pending with
  | .none => .ok s
  | .awaited _ => .error .invalidValue
  | .value flag value => settled.set flag value
  | .file text => do return { settled with file := some (← path text) }

/-- Begins a flag, whose value may be in the same argument. -/
def begin (s : Settings) (flag : Flag) (value : Option (List Char)) : Except UsageError Settings := do
  let s ← s.settle
  match value with
  | some value => s.set flag (String.ofList value)
  | none => return { s with pending := .awaited flag }

/-- Takes up the letters of an argument that starts with one dash. -/
def letters (flags : List Flag) (s : Settings) : List Char → Except UsageError Settings
  | [] => .ok s
  | 'v' :: rest => do letters flags (← s.settle) rest
  | 'h' :: _ => do
    let _ ← s.settle
    .error .help
  | letter :: rest =>
    match (Flag.ofLetter? letter).filter (· ∈ flags) with
    | none => .error .unknownArgument
    | some flag =>
      s.begin flag <| match rest with
        | [] => none
        | '=' :: value => some value
        | value => some value

/-- Takes up an argument that starts with two dashes. -/
def long (flags : List Flag) (s : Settings) (argument : List Char) : Except UsageError Settings :=
  let (name, value) := match Text.splitFirst '=' argument with
    | some (name, value) => (name, some value)
    | none => (argument, none)
  if name = "verbose".toList || name = "help".toList then
    if value.isSome then .error .surplusValue
    else if name = "verbose".toList then s.settle
    else do
      let _ ← s.settle
      .error .help
  else
    match (Flag.ofName? name).filter (· ∈ flags) with
    | none => .error .unknownArgument
    | some flag => s.begin flag value

/-- Whether the path of the file has been given. -/
def hasFile (s : Settings) : Bool :=
  match s.pending with
  | .file _ => true
  | _ => s.file.isSome

/-- Takes up an argument that is no flag and no value of one. -/
def positional (s : Settings) (argument : String) : Except UsageError Settings :=
  if s.hasFile then .error .unknownArgument else do return { ← s.settle with pending := .file argument }

/-- Takes up the arguments behind the name of a command. -/
def read (flags : List Flag) (flagsOver : Bool) (s : Settings) : List String → Except UsageError Settings
  | [] => s.settle
  | argument :: rest =>
    if flagsOver then do read flags true (← s.positional argument) rest
    else
      match argument.toList with
      | ['-', '-'] => read flags true s rest
      | '-' :: '-' :: name => do read flags false (← s.long flags name) rest
      | '-' :: letter :: others => do read flags false (← s.letters flags (letter :: others)) rest
      | _ =>
        match s.pending with
        | .awaited flag => read flags false { s with pending := .value flag argument } rest
        | _ => do read flags false (← s.positional argument) rest

/-- The command that settings make. -/
def command (s : Settings) (name : CommandName) : Except UsageError Command :=
  match s.model, s.modelJson with
  | some _, some _ => .error .conflict
  | model, modelJson =>
    let base : QueryBase := match model, modelJson with
      | some path, _ => .file path
      | none, some text => .inline text
      | none, none => .none
    let format := s.format.getD .table
    match s.file with
    | none => .error .missingFile
    | some file =>
      match name with
      | .tables => .ok (.tables file format)
      | .columns => .ok (.columns file s.table)
      | .query => .ok (.query ⟨file, s.table, base, s.search, s.sorting, format⟩)

end Settings

namespace Command

/-- The error of asking for help on something: a command, or the asking itself. -/
def helpOn : List String → UsageError
  | [] => .help
  | [topic] => if topic = "help" || (CommandName.ofText? topic).isSome then .help else .unknownCommand
  | _ => .unknownCommand

/-- The letters that may stand before the name of a command; nothing if they ask for nothing. -/
def leadingLetters : List Char → Option UsageError
  | [] => none
  | 'v' :: rest => leadingLetters rest
  | 'h' :: _ => some .help
  | 'V' :: _ => some .version
  | _ => some .unknownArgument

/-- Reads arguments from the name of the command on; `begun` tells that something stood before it. -/
def readFrom (begun : Bool) : List String → Except UsageError Command
  | [] => .error (if begun then .missingCommand else .noArguments)
  | argument :: rest =>
    match CommandName.ofText? argument with
    | some name => do (← Settings.read name.flags false {} rest).command name
    | none =>
      match argument.toList with
      | ['-', '-'] =>
        match rest with
        | [] => .error (if begun then .missingCommand else .noArguments)
        | topic :: _ =>
          .error (if topic = "help" || (CommandName.ofText? topic).isSome then .unknownArgument else .unknownCommand)
      | '-' :: '-' :: name =>
        if name = "verbose".toList then readFrom true rest
        else if name = "help".toList then .error .help
        else if name = "version".toList then .error .version
        else
          .error <| match Text.splitFirst '=' name with
            | some (name, _) =>
              if name = "verbose".toList || name = "help".toList || name = "version".toList then .surplusValue
              else .unknownArgument
            | none => .unknownArgument
      | '-' :: letter :: others =>
        match leadingLetters (letter :: others) with
        | some error => .error error
        | none => readFrom true rest
      | _ => .error (if argument = "help" then helpOn rest else .unknownCommand)

/-- Reads the arguments of a program. -/
def ofArguments (arguments : List String) : Except UsageError Command := readFrom false arguments

end Command

end TableQuery
