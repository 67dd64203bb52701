import TableQuery.Number.Basic

/-!
Decimal literals.

A literal is read in two steps: the grammar splits it from the text that follows, with all its digits gathered in one
coefficient, and the coefficient is rounded once to the nearest number. `Decimal.scan` reads the longest literal at the
start of a text.
-/

namespace TableQuery

/-- The decimal `± coefficient * 10 ^ exponent`. -/
structure Decimal where
  negative : Bool
  coefficient : Nat
  exponent : Int
deriving DecidableEq

namespace Decimal

/-- The number closest to a decimal. -/
def toNumber (d : Decimal) : Number := .signed d.negative (.ofDecimal d.coefficient d.exponent)

def isDigit (c : Char) : Bool := '0' ≤ c && c ≤ '9'

def digitValue (c : Char) : Nat := c.toNat - '0'.toNat

/-- The integer written by a run of digits. -/
def ofDigits (digits : List Char) : Nat := digits.foldl (fun n c => 10 * n + digitValue c) 0

/-- A sign, if the text starts with one; `true` for a minus. -/
def scanSign : List Char → Bool × List Char
  | '-' :: rest => (true, rest)
  | '+' :: rest => (false, rest)
  | rest => (false, rest)

/-- An exponent part, if the text starts with one. A mark that no digit follows is left in the text. -/
def scanExponent (text : List Char) : Int × List Char :=
  match text with
  | mark :: rest =>
    if mark = 'e' || mark = 'E' then
      let (negative, tail) := scanSign rest
      let digits := tail.takeWhile isDigit
      if digits.isEmpty then (0, text)
      else (if negative then -(ofDigits digits : Int) else ofDigits digits, tail.dropWhile isDigit)
    else (0, text)
  | [] => (0, [])

/-- An unsigned literal: digits with an optional point among, before or after them, then an optional exponent. -/
def scanUnsigned (negative : Bool) (text : List Char) : Option (Decimal × List Char) :=
  let whole := text.takeWhile isDigit
  let afterWhole := text.dropWhile isDigit
  let (fraction, rest) :=
    match afterWhole with
    | '.' :: tail => (tail.takeWhile isDigit, tail.dropWhile isDigit)
    | _ => ([], afterWhole)
  if whole.isEmpty && fraction.isEmpty then none
  else
    let (exponent, rest) := scanExponent rest
    some (⟨negative, ofDigits (whole ++ fraction), exponent - fraction.length⟩, rest)

/-- The longest decimal literal at the start of a text, with the text after it. -/
def scan (text : List Char) : Option (Decimal × List Char) :=
  let (negative, rest) := scanSign text
  scanUnsigned negative rest

/-- The decimal that a whole text is. -/
def parse? (text : List Char) : Option Decimal :=
  match scan text with
  | some (d, []) => some d
  | _ => none

end Decimal

end TableQuery
