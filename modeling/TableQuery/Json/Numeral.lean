import TableQuery.Json.Basic

/-!
The value of a JSON number.

A number without fraction and exponent that fits 64 bits is an integer. Any other number is scaled from its first
digits: digits are gathered as long as they fit 64 bits, and the gathered integer is multiplied or divided by a power of
ten. Both steps round, so the value can differ from the closest number in its last bits.
-/

namespace TableQuery.Json

/-- The lexical parts of a number: sign, digits before and after the point, exponent. -/
structure Lexeme where
  negative : Bool
  whole : List Char
  fraction : Option (List Char)
  exponent : Option (Bool × List Char)

namespace Numeral

/-- Digits gathered into an integer of 64 bits. -/
structure Gathered where
  significand : Nat
  /-- The power of ten that the significand still has to be multiplied by. -/
  exponent : Int
  /-- A digit did not fit, and all further digits are dropped. -/
  full : Bool

namespace Gathered

/-- Whether a digit can be appended within 64 bits. -/
def fits (g : Gathered) (digit : Nat) : Bool := 10 * g.significand + digit < 1 <<< 64

/-- Appends a digit before the point; a digit that is dropped raises the exponent. -/
def appendWhole (g : Gathered) (c : Char) : Gathered :=
  let digit := Decimal.digitValue c
  if g.full || !g.fits digit then { g with exponent := g.exponent + 1, full := true }
  else { g with significand := 10 * g.significand + digit }

/-- Appends a digit after the point; a digit that is dropped changes nothing. -/
def appendFraction (g : Gathered) (c : Char) : Gathered :=
  let digit := Decimal.digitValue c
  if g.full || !g.fits digit then { g with full := true }
  else { g with significand := 10 * g.significand + digit, exponent := g.exponent - 1 }

def ofWhole (digits : List Char) : Gathered := digits.foldl appendWhole ⟨0, 0, false⟩

/-- Whether digits after the point may be appended begins anew at the point. -/
def withFraction (g : Gathered) (digits : List Char) : Gathered := digits.foldl appendFraction { g with full := false }

end Gathered

/-- The number closest to a power of ten. -/
def powerOfTen (n : Nat) : Number := .signed false (.ofDecimal 1 n)

/-- Scales a number by a power of ten, in steps of at most `10 ^ 308`; nothing when the result is out of range. Two
steps down reach zero, so the number of steps never runs out. -/
def scale : Nat → Number → Int → Option Number
  | 0, x, _ => some x
  | steps + 1, x, exponent =>
    if exponent.natAbs ≤ 308 then
      if 0 ≤ exponent then
        let product := x.mul (powerOfTen exponent.natAbs)
        if product = .infinity then none else some product
      else some (x.div (powerOfTen exponent.natAbs))
    else if x = .zero then some x
    else if 0 ≤ exponent then none
    else scale steps (x.div (powerOfTen 308)) (exponent + 308)

def negate (negative : Bool) : Number → Number
  | .nan => .nan
  | .signed s m => .signed (s != negative) m

/-- The value of a number, or nothing when it is out of range. -/
def ofLexeme? (l : Lexeme) : Option Numeral :=
  let whole := Gathered.ofWhole l.whole
  match l.fraction, l.exponent, whole.full with
  | none, none, false =>
    if !l.negative then some (.integer whole.significand)
    else if whole.significand = 0 || 1 <<< 63 < whole.significand then
      some (.real (negate true (.ofNat whole.significand)))
    else some (.integer (-whole.significand))
  | fraction, exponent, _ =>
    let gathered := match fraction with
      | none => whole
      | some digits => whole.withFraction digits
    let shift : Int := match exponent with
      | none => 0
      | some (true, digits) => -(Decimal.ofDigits digits : Int)
      | some (false, digits) => Decimal.ofDigits digits
    (scale 5 (.ofNat gathered.significand) (gathered.exponent + shift)).map fun x => .real (negate l.negative x)

end Numeral

end TableQuery.Json
