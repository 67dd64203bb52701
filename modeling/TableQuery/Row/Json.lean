import TableQuery.Row.Basic
import TableQuery.Json.Decode
import TableQuery.Json.Printer

/-!
Rows as JSON.

A row is an object from columns to cells. Numbers without a fraction are written as integers as long as every integer of
their size is a number; a cell that is not a finite number is written as null. Read cells may be any scalar, and truth
values become their words.
-/

namespace TableQuery

namespace Cell

/-- The greatest magnitude up to which all integers are numbers. -/
def greatestSafeInteger : Nat := 1 <<< 53

def numberToJson : Number → Json
  | .nan => .null
  | .signed negative m =>
    if !m.isFinite then .null
    else
      match m.toNat? with
      | some n =>
        if n ≤ greatestSafeInteger then .numeral (.integer (if negative then -(n : Int) else n))
        else .numeral (.real (.signed negative m))
      | none => .numeral (.real (.signed negative m))

def toJson : Cell → Json
  | .text s => .string s
  | .number n => numberToJson n
  | .null => .null

def ofBool (b : Bool) : Cell := .text (if b then "true" else "false")

def decode : Json.Decoder Cell
  | .null => .ok .null
  | .bool b => .ok (.ofBool b)
  | .numeral n => do return .number (← Json.Decoder.readable n).toNumber
  | .string s => do return .text (← Json.Decoder.readable s)
  | draft => Json.Decoder.mismatch "a string, number, boolean, or null cell" draft

/-- Any scalar, by its text. -/
def decodeText : Json.Decoder String := fun draft => toText <$> decode draft

end Cell

namespace Row

def toJson (row : Row) : Json := .object (row.entries.map fun (column, cell) => (column, cell.toJson))

def tableToJson (rows : List Row) : Json := .array (rows.map toJson)

/-- A row from an object; a column that is there twice keeps its place and takes the later cell. -/
def decode : Json.Decoder Row
  | .object members ending => do
    let row ← members.foldlM
      (fun row (name, value) => do
        let column ← Json.Decoder.readable name
        return row.insert column (← Cell.decode value))
      OrderedMap.empty
    Json.Decoder.close row ending
  | draft => Json.Decoder.mismatch "a row object mapping column names to cells" draft

def decodeTable : Json.Decoder (List Row) := Json.Decoder.list decode

end Row

end TableQuery
