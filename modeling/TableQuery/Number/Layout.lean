import TableQuery.Number.Shortest

/-!
Layouts of numbers.

The digits of a number are chosen once, by `Magnitude.shortestDigits`; a `Layout` holds what is left to decide when
they are written: where positional writing ends, whether an integral number carries a point, how an exponent is signed,
and the texts of the special values.
-/

namespace TableQuery

/-- The decisions of one way to write numbers. -/
structure Layout where
  /-- Numbers whose leading digit has an exponent from here on … -/
  positionalFrom : Option Int
  /-- … and below this one are written without an exponent. -/
  positionalBelow : Option Int
  /-- An integer written without an exponent shows all its digits, not only as many as identify it. -/
  exactIntegers : Bool
  /-- An integer written without an exponent ends in `.0`. -/
  pointZero : Bool
  /-- A nonnegative exponent has a plus sign. -/
  exponentPlus : Bool
  tie : Tie
  /-- A zero keeps its sign. -/
  signedZero : Bool
  nan : String
  infinity : String
  negativeInfinity : String

namespace Layout

/-- Whether digits with the given leading exponent are written without an exponent. -/
def isPositional (layout : Layout) (lead : Int) : Bool :=
  layout.positionalFrom.all (· ≤ lead) && layout.positionalBelow.all (lead < ·)

/-- Digits written without an exponent. -/
def positional (layout : Layout) (d : Digits) : List Char :=
  if d.lead < 0 then '0' :: '.' :: (List.replicate (-d.lead - 1).toNat '0' ++ d.digits)
  else
    let whole := d.lead.toNat + 1
    if d.digits.length ≤ whole then
      d.digits ++ List.replicate (whole - d.digits.length) '0' ++ (if layout.pointZero then ['.', '0'] else [])
    else d.digits.take whole ++ '.' :: d.digits.drop whole

/-- Digits written with an exponent. -/
def scientific (layout : Layout) (d : Digits) : List Char :=
  let fraction := d.digits.drop 1
  d.digits.take 1 ++ (if fraction.isEmpty then [] else '.' :: fraction) ++ 'e' ::
    ((if d.lead < 0 then ['-'] else if layout.exponentPlus then ['+'] else []) ++ Nat.toDigits 10 d.lead.natAbs)

/-- A finite magnitude in this layout. -/
def magnitude (layout : Layout) (m : Magnitude) : List Char :=
  if m.code = 0 then '0' :: (if layout.pointZero then ['.', '0'] else [])
  else
    let d := m.shortestDigits layout.tie
    if layout.isPositional d.lead then
      match m.toNat?, layout.exactIntegers with
      | some n, true => Nat.toDigits 10 n
      | _, _ => layout.positional d
    else layout.scientific d

/-- A number in this layout. -/
def render (layout : Layout) : Number → String
  | .nan => layout.nan
  | .signed negative m =>
    if m.isFinite then
      String.ofList ((if negative && (layout.signedZero || m.code != 0) then ['-'] else []) ++ layout.magnitude m)
    else if negative then layout.negativeInfinity
    else layout.infinity

/-- Every number without an exponent, with no more digits than needed. -/
def plain : Layout where
  positionalFrom := none
  positionalBelow := none
  exactIntegers := false
  pointZero := false
  exponentPlus := false
  tie := .up
  signedZero := true
  nan := "NaN"
  infinity := "inf"
  negativeInfinity := "-inf"

end Layout

end TableQuery
