import TableQuery.Row.Basic
import TableQuery.Cell.Reading
import TableQuery.Text.LowerCase

/-!
Aggregates of columns.

An aggregate condenses the numeric readings of one column of a table into one cell. Cells without a numeric reading are
passed over; without any reading, and for a function that is not known, the result is an empty cell.
-/

namespace TableQuery

inductive Aggregate where
  | min
  | max
  | sum
  | avg
  | unsupported (name : String)
deriving DecidableEq

namespace Aggregate

/-- Reads the name of an aggregate, in any letter case; a blank name means that there is none. -/
def ofToken? (token : String) : Option Aggregate :=
  let name := Text.trim token.toList
  if name.isEmpty then none
  else
    let upper := name.map Char.toUpper
    if upper = ['M', 'I', 'N'] then some .min
    else if upper = ['M', 'A', 'X'] then some .max
    else if upper = ['S', 'U', 'M'] then some .sum
    else if upper = ['A', 'V', 'G'] then some .avg
    else some (.unsupported (String.ofList name))

/-- Reads the name of an aggregate that is present whatever its name is. -/
def ofToken (token : String) : Aggregate := (ofToken? token).getD (.unsupported token)

def token : Aggregate → String
  | .min => "MIN"
  | .max => "MAX"
  | .sum => "SUM"
  | .avg => "AVG"
  | .unsupported name => name

/-- The numeric readings of a column, in row order. Blanks around the column's name are dropped. -/
def readings (column : String) (rows : List Row) : List Number :=
  let column := String.ofList (Text.trim column.toList)
  rows.filterMap fun row => (row.value column).leadingNumber?

/-- Condenses readings into one number. -/
def ofReadings? : Aggregate → List Number → Option Number
  | .min, readings => some (readings.foldl Number.min .infinity)
  | .max, readings => some (readings.foldl Number.max .negativeInfinity)
  | .sum, readings => some (.sum readings)
  | .avg, readings => some ((Number.sum readings).div (.ofNat readings.length))
  | .unsupported _, _ => none

/-- The aggregate of a column over some rows. -/
def compute (aggregate : Aggregate) (rows : List Row) (column : String) : Cell :=
  match readings column rows with
  | [] => .null
  | first :: others =>
    match aggregate.ofReadings? (first :: others) with
    | some n => .number n
    | none => .null

end Aggregate

end TableQuery
