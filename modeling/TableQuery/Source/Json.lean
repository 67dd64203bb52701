import TableQuery.Source.Basic
import TableQuery.Row.Json

/-!
Tables from JSON.

A list of objects is one table; an object whose members are lists of objects is one table per member. Cells that are
scalars are read as cells are; arrays and objects become their text.
-/

namespace TableQuery

namespace Cell

/-- The cell of a member of a row. -/
def ofJson : Json → Cell
  | .null => .null
  | .bool b => .ofBool b
  | .numeral n => .number n.toNumber
  | .string s => .text s
  | nested => .text (String.ofList nested.compact)

end Cell

namespace Row

/-- The row of the members of an object. -/
def ofMembers (members : List (String × Json)) : Row :=
  members.foldl (fun row (column, value) => row.insert column (Cell.ofJson value)) OrderedMap.empty

/-- The rows of the items of a table from an index on. -/
def ofItems (table : String) (index : Nat) : List Json → Except DataFault (List Row)
  | [] => .ok []
  | .object members :: rest => do return ofMembers members :: (← ofItems table (index + 1) rest)
  | found :: _ => .error (.notRow table index found)

end Row

namespace Source

/-- Adds the tables that are the members of an object. -/
def addTables (source : Source) : List (String × Json) → Except DataFault Source
  | [] => .ok source
  | (name, .array items) :: rest => do addTables (source.insert name (← Row.ofItems name 1 items)) rest
  | (name, _) :: _ => .error (.notTable name)

/-- The tables of a document; `name` is for a document that is a single table. -/
def ofDocument (name : String) : Json → Except DataFault Source
  | .array items => do return single name (← Row.ofItems name 1 items)
  | .object members => addTables OrderedMap.empty members
  | _ => .error .notTables

/-- The tables of a JSON text. -/
def ofJson (name content : String) : Except SourceError Source := do
  let document ← (Json.parse content).mapError .json
  (ofDocument name document).mapError .invalidData

end Source

end TableQuery
