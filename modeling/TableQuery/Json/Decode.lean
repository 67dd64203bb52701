import TableQuery.Json.Draft
import TableQuery.Text.Quoted

/-!
Decoding of JSON texts.

A decoder takes a draft to a value of some type, or to the first error in the order of the text. Decoders are built from
the ones here: lists, optional values, and records, whose fields may come as the members of an object in any order or as
the items of an array in the order of the fields.
-/

namespace TableQuery.Json

/-- What kind of value a text has where another kind was expected. -/
inductive Found where
  | null
  | bool (b : Bool)
  | numeral (n : Numeral)
  | string (s : String)
  | sequence
  | map

namespace Found

def describe : Found → String
  | .null => "null"
  | .bool b => "boolean `" ++ (if b then "true" else "false") ++ "`"
  | .numeral (.integer n) => "integer `" ++ String.ofList (Numeral.integer n).render ++ "`"
  | .numeral (.real x) => "floating point `" ++ String.ofList (Numeral.real x).render ++ "`"
  | .string s => "string " ++ String.ofList (Text.quoted s.toList)
  | .sequence => "sequence"
  | .map => "map"

end Found

/-- Why a text cannot be decoded. -/
inductive DecodeError where
  /-- The text is not JSON. -/
  | fault (fault : Fault)
  /-- A value is of another kind than the expected one. -/
  | wrongKind (found : Found) (expected : String)
  /-- A field of a record is there twice. -/
  | duplicateField (name : String)

namespace DecodeError

/-- What is wrong with a text, without the place in it. What is said of a text that is not JSON is left out. -/
def message : DecodeError → String
  | .fault _ => ""
  | .wrongKind found expected => "invalid type: " ++ found.describe ++ ", expected " ++ expected
  | .duplicateField name => "duplicate field `" ++ name ++ "`"

end DecodeError

/-- A way to decode values of a type. -/
abbrev Decoder (α : Type) := Draft → Except DecodeError α

namespace Decoder

variable {α : Type}

def faulty (fault : Fault) : Except DecodeError α := .error (.fault fault)

def readable {β : Type} : Except Fault β → Except DecodeError β
  | .ok value => .ok value
  | .error fault => .error (.fault fault)

/-- Closes an array or object whose contents are decoded. -/
def close (value : α) : Ending → Except DecodeError α
  | .closed => .ok value
  | .cut reading _ => faulty reading

/-- The error of a draft that is not of the expected kind. -/
def mismatch (expected : String) : Decoder α
  | .null => .error (.wrongKind .null expected)
  | .bool b => .error (.wrongKind (.bool b) expected)
  | .numeral n => do .error (.wrongKind (.numeral (← readable n)) expected)
  | .string s => do .error (.wrongKind (.string (← readable s)) expected)
  | .array .. => .error (.wrongKind .sequence expected)
  | .object .. => .error (.wrongKind .map expected)
  | .broken reading _ => faulty reading

def string : Decoder String
  | .string s => readable s
  | draft => mismatch "a string" draft

/-- A value or null. -/
def optional (decode : Decoder α) : Decoder (Option α)
  | .null => .ok none
  | draft => some <$> decode draft

def list (decode : Decoder α) : Decoder (List α)
  | .array items ending => do close (← items.mapM decode) ending
  | draft => mismatch "a sequence" draft

/-- A field of a record: its name, and how a draft of its value changes the record. -/
structure Field (α : Type) where
  name : String
  update : Draft → α → Except DecodeError α

/-- A field whose value is decoded and then put into the record. -/
def Field.of {β : Type} (name : String) (decode : Decoder β) (put : β → α → α) : Field α where
  name := name
  update draft record := do return put (← decode draft) record

/-- Takes up one member of an object. The names of the fields taken up so far are given. -/
def takeMember (fields : List (Field α)) (state : List String × α) (member : Except Fault String × Draft) :
    Except DecodeError (List String × α) := do
  let name ← readable member.1
  match fields.find? (·.name = name) with
  | none =>
    readable (Draft.passOver member.2)
    return state
  | some field =>
    if name ∈ state.1 then .error (.duplicateField name)
    else return (name :: state.1, ← field.update member.2 state.2)

/-- A record with defaults for the fields that are missing. Members that are no fields are passed over; an array must
not have more items than there are fields. -/
def record (kind : String) (fields : List (Field α)) (default : α) : Decoder α
  | .object members ending => do close (← members.foldlM (takeMember fields) ([], default)).2 ending
  | .array items ending => do
    let value ← (fields.zip items).foldlM (fun value (field, item) => field.update item value) default
    if fields.length < items.length then faulty .malformed else close value ending
  | draft => mismatch ("struct " ++ kind) draft

/-- Decodes a text that holds one value and nothing after it. -/
def run (decode : Decoder α) (text : String) : Except DecodeError α := do
  let (draft, more) := Draft.ofText text.toList
  let value ← decode draft
  if more then faulty .malformed else return value

end Decoder

/-! Whole documents. -/

/-- How deeply arrays and objects of a document may be nested, plus one. -/
def nestingLimit : Nat := 128

mutual

/-- The document of a draft, with a bound on the nesting. -/
def ofDraft (depth : Nat) : Draft → Except Fault Json
  | .null => .ok .null
  | .bool b => .ok (.bool b)
  | .numeral n => .numeral <$> n
  | .string s => .string <$> s
  | .array items ending => do
    if depth ≤ 1 then .error .malformed
    let items ← ofItems (depth - 1) items
    match ending with
    | .closed => return .array items
    | .cut reading _ => .error reading
  | .object members ending => do
    if depth ≤ 1 then .error .malformed
    let members ← ofMembers (depth - 1) [] members
    match ending with
    | .closed => return .object members
    | .cut reading _ => .error reading
  | .broken reading _ => .error reading

def ofItems (depth : Nat) : List Draft → Except Fault (List Json)
  | [] => .ok []
  | item :: rest => do return (← ofDraft depth item) :: (← ofItems depth rest)

/-- Adds members to the members before them. -/
def ofMembers (depth : Nat) (before : List (String × Json)) :
    List (Except Fault String × Draft) → Except Fault (List (String × Json))
  | [] => .ok before
  | (name, value) :: rest => do
    let name ← name
    let value ← ofDraft depth value
    ofMembers depth (putEntry name value before) rest

end

def document : Decoder Json := fun draft => Decoder.readable (ofDraft nestingLimit draft)

/-- Reads a text as a document. -/
def parse (text : String) : Except DecodeError Json := document.run text

end TableQuery.Json
