import TableQuery.Cell.Reading

/-!
The order of cells.

Numbers come first, then texts by code point, then cells without a value.
-/

namespace TableQuery.Cell

/-- The place of a cell's kind in the order. -/
def rank : Cell → Nat
  | .number _ => 0
  | .text _ => 1
  | .null => 2

def order : Cell → Cell → Ordering
  | .number m, .number n => m.sortCompare n
  | .text s, .text t => compare s t
  | a, b => compare a.rank b.rank

end TableQuery.Cell
