import TableQuery.Number.Layout
import TableQuery.OrderedMap

/-!
JSON documents.

Integers of up to 64 bits are kept apart from other numbers, because they are written with all their digits. The
members of an object keep their order; of members with one name, the first gives the place and the last the value.
-/

namespace TableQuery

/-- A number of a JSON document. -/
inductive Json.Numeral where
  | integer (n : Int)
  | real (x : Number)
deriving DecidableEq

inductive Json where
  | null
  | bool (b : Bool)
  | numeral (n : Json.Numeral)
  | string (s : String)
  | array (items : List Json)
  | object (members : List (String × Json))
deriving Inhabited

namespace Json

/-- The number closest to a numeral. -/
def Numeral.toNumber : Numeral → Number
  | .integer n => .ofInt n
  | .real x => x

/-- Numbers with a fraction, or too large to be kept as integers, carry a point or an exponent. -/
def numberLayout : Layout where
  positionalFrom := some (-5)
  positionalBelow := some 16
  exactIntegers := false
  pointZero := true
  exponentPlus := true
  tie := .toEven
  signedZero := true
  nan := "null"
  infinity := "null"
  negativeInfinity := "null"

def Numeral.render : Numeral → List Char
  | .integer n => if n < 0 then '-' :: Nat.toDigits 10 n.natAbs else Nat.toDigits 10 n.natAbs
  | .real x => (numberLayout.render x).toList

end Json

end TableQuery
