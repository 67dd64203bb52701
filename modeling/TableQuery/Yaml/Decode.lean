import TableQuery.Row.Json
import TableQuery.Yaml.Node
import TableQuery.Yaml.Scalar

/-!
Decoding of YAML documents.

Decoders follow the ones of JSON, with the rules of YAML: a scalar that is not written is null, an empty list or an
empty record; a text may be any scalar; records are mappings only. There is one document at most, and one without
content counts as a scalar that is not written. Aliases can be followed a limited number of times, so a short document
does not stand for an endless one.
-/

namespace TableQuery.Yaml

/-- The nodes that the numbers of aliases stand for. -/
abbrev Aliases := List (Nat × Node)

/-- How many aliases can be followed in a document, for each of its events. -/
def repetitionLimit : Nat := 100

/-- A computation that can fail, with the number of aliases that can still be followed. -/
abbrev Bounded := StateT Nat Option

namespace Aliases

/-- The node that a node stands for. -/
def follow (aliases : Aliases) : Node → Bounded Node
  | .alias number => do
    match ← get with
    | 0 => failure
    | left + 1 =>
      set left
      ((aliases.reverse.find? (·.1 = number)).map Prod.snd : Option Node)
  | node => return node

end Aliases

/-- The cell of a scalar; integers of more than 64 bits are none. -/
def Scalar.toCell? : Scalar → Option Cell
  | .null => some .null
  | .bool b => some (.ofBool b)
  | .integer n => if -(1 <<< 63) ≤ n && n < 1 <<< 64 then some (.number (.ofInt n)) else none
  | .real x => some (.number x)
  | .text s => some (.text (String.ofList s))

/-- The tag of a common type. -/
def commonTag (name : String) : List Char := Handles.commonBase ++ name.toList

/-- The value of a scalar with a tag. Tags of the common types ask for a value of their type; local tags have none. -/
def Scalar.ofTagged? (tag text : List Char) : Option Scalar :=
  if tag.head? = some '!' then none
  else if tag = commonTag "bool" then (bool? text).map .bool
  else if tag = commonTag "int" then (integer? text).map .integer
  else if tag = commonTag "float" then (real? text).map .real
  else if tag = commonTag "null" then if isNullWord text then some .null else none
  else some (.text text)

/-- The cell of a scalar with some tag. -/
def Scalar.readCell? (tag : Option (List Char)) (isPlain : Bool) (text : List Char) : Option Cell :=
  match tag with
  | some tag => (ofTagged? tag text).bind toCell?
  | none => if isPlain then (ofPlain text).toCell? else some (.text (String.ofList text))

/-- A way to decode values of a type from a node. -/
abbrev Decoder (α : Type) := Aliases → Node → Bounded α

namespace Decoder

variable {α : Type}

/-- Any scalar, as a cell. -/
def cell : Decoder Cell := fun aliases node => do
  match ← aliases.follow node with
  | .scalar p isPlain text => (Scalar.readCell? p.tag isPlain text : Option Cell)
  | _ => failure

/-- Any scalar, by the text of its cell. -/
def cellText : Decoder String := fun aliases node => Cell.toText <$> cell aliases node

/-- Any scalar, as it is written. -/
def string : Decoder String := fun aliases node => do
  match ← aliases.follow node with
  | .scalar _ _ text => return String.ofList text
  | _ => failure

/-- A value or null. -/
def optional (decode : Decoder α) : Decoder (Option α) := fun aliases node => do
  match ← aliases.follow node with
  | .scalar p true text =>
    if p.tag = some (commonTag "null") then if Scalar.isNullWord text then return none else failure
    else if text.isEmpty || Scalar.isNullWord text then return none
    else return some (← decode aliases (.scalar p true text))
  | node => return some (← decode aliases node)

/-- Whether a node is a scalar that is not written. -/
def isBlank : Node → Bool
  | .scalar _ true [] => true
  | _ => false

def list (decode : Decoder α) : Decoder (List α) := fun aliases node => do
  match ← aliases.follow node with
  | .sequence _ items => items.mapM (decode aliases)
  | node => if isBlank node then return [] else failure

/-- A field of a record: its name, and how a node changes the record. -/
structure Field (α : Type) where
  name : String
  update : Aliases → Node → α → Bounded α

/-- A field whose value is decoded and then put into the record. -/
def Field.of {β : Type} (name : String) (decode : Decoder β) (put : β → α → α) : Field α where
  name := name
  update aliases node record := (put · record) <$> decode aliases node

/-- Takes up one entry of a mapping. The names of the fields taken up so far are given. -/
def takeEntry (fields : List (Field α)) (aliases : Aliases) (state : List String × α) (entry : Node × Node) :
    Bounded (List String × α) := do
  let name ← string aliases entry.1
  match fields.find? (·.name = name) with
  | none => return state
  | some field =>
    if name ∈ state.1 then failure
    else return (name :: state.1, ← field.update aliases entry.2 state.2)

/-- A record with defaults for the fields that are missing. Entries that are no fields are passed over. -/
def record (fields : List (Field α)) (default : α) : Decoder α := fun aliases node => do
  match ← aliases.follow node with
  | .mapping _ entries => return (← entries.foldlM (takeEntry fields aliases) ([], default)).2
  | node => if isBlank node then return default else failure

/-- Decodes the document of a text. -/
def run (decode : Decoder α) (text : String) : Option α := do
  let root := (← Node.ofTokens? (← Token.ofText? text.toList)).getD .empty
  (decode root.anchored root).run' (repetitionLimit * root.events)

end Decoder

end TableQuery.Yaml
