import TableQuery.Row.Basic
import TableQuery.Cell.Order
import TableQuery.Text.LowerCase

/-!
Sorting of rows.

Rows are sorted by the cells of one column, each read as a number when all of it is one. The sort is stable in both
directions: rows that compare equal keep their order.
-/

namespace TableQuery

/-- The direction of a sort. A token that names no direction is kept, and leaves rows as they are. -/
inductive Direction where
  | asc
  | desc
  | other (token : String)
deriving DecidableEq, Inhabited

namespace Direction

/-- Reads a direction in any letter case; the empty token means ascending. -/
def ofToken (token : String) : Direction :=
  if token = "" || Text.eqIgnoringCase token.toList ['a', 's', 'c'] then .asc
  else if Text.eqIgnoringCase token.toList ['d', 'e', 's', 'c'] then .desc
  else .other token

def token : Direction → String
  | .asc => "asc"
  | .desc => "desc"
  | .other token => token

def isAsc : Direction → Bool
  | .asc => true
  | _ => false

def isDesc : Direction → Bool
  | .desc => true
  | _ => false

/-- Turns an ascending comparison into one in this direction. -/
def apply : Direction → Ordering → Ordering
  | .asc, o => o
  | .desc, o => o.swap
  | .other _, _ => .eq

end Direction

/-- The column that rows are sorted by, and the direction. -/
structure Sorting where
  column : String := ""
  direction : Direction := .asc
deriving DecidableEq, Inhabited

namespace Sorting

/-- Whether a sorting may reorder rows. -/
def isActive (s : Sorting) : Bool :=
  s.column != "" && match s.direction with
    | .other _ => false
    | _ => true

/-- The cell that a row is sorted by. -/
def key (s : Sorting) (row : Row) : Cell := (row.value s.column).interpret

def compare (s : Sorting) (a b : Row) : Ordering := s.direction.apply ((s.key a).order (s.key b))

/-- Sorts rows by keys that are computed once for each row. -/
def byKey (le : Cell → Cell → Bool) (s : Sorting) (rows : List Row) : List Row :=
  ((rows.map fun row => (s.key row, row)).mergeSort fun a b => le a.1 b.1).map Prod.snd

/-- The rows in the order of a sorting. -/
def sort (s : Sorting) (rows : List Row) : List Row :=
  if s.isActive then
    match s.direction with
    | .asc => byKey (fun a b => a.order b != .gt) s rows
    | .desc => byKey (fun a b => b.order a != .gt) s rows
    | .other _ => rows
  else rows

end Sorting

end TableQuery
