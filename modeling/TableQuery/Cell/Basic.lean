import TableQuery.Number.Layout

/-!
Cells.

A cell of a table holds text, a number, or nothing. The same column may hold text in one row and a number in the next,
so every operation on cells says by itself how it reads each kind.
-/

namespace TableQuery

inductive Cell where
  | text (s : String)
  | number (n : Number)
  | null
deriving DecidableEq, Inhabited

namespace Cell

/-- Numbers in cells are written without an exponent from `10 ^ (-6)` up to `10 ^ 21`, integers with all their
digits. -/
def numberLayout : Layout where
  positionalFrom := some (-6)
  positionalBelow := some 21
  exactIntegers := true
  pointZero := false
  exponentPlus := true
  tie := .up
  signedZero := false
  nan := "NaN"
  infinity := "Infinity"
  negativeInfinity := "-Infinity"

/-- The text of a cell, as it is shown and searched. -/
def toText : Cell → String
  | .text s => s
  | .number n => numberLayout.render n
  | .null => ""

/-- Equality of values: like equality, except that numbers are compared numerically. -/
def sameValue : Cell → Cell → Bool
  | .text s, .text t => s == t
  | .number m, .number n => m.numericEq n
  | .null, .null => true
  | _, _ => false

@[simp]
theorem toText_text (s : String) : toText (.text s) = s := rfl

@[simp]
theorem toText_null : toText .null = "" := rfl

end Cell

end TableQuery
