import TableQuery.Number.Magnitude

/-!
Numbers of the binary64 format.

A number is a sign with a magnitude, or not a number at all. Arithmetic is exact on the units of the magnitudes and
rounds once, to the nearest number. Numbers are compared by their `place` on the number line, where the two zeros
share one place and a value that is not a number has none.
-/

namespace TableQuery

/-- A binary64 number. The payloads and signs of values that are not a number are never told apart. -/
inductive Number where
  | nan
  | signed (negative : Bool) (magnitude : Magnitude)
deriving DecidableEq

namespace Number

def zero : Number := .signed false .zero

def negativeZero : Number := .signed true .zero

def infinity : Number := .signed false .infinity

def negativeInfinity : Number := .signed true .infinity

def isNan : Number → Bool
  | .nan => true
  | .signed .. => false

def isFinite : Number → Bool
  | .nan => false
  | .signed _ m => m.isFinite

/-- The number closest to an integer. -/
def ofNat (n : Nat) : Number := .signed false (.ofNat n)

def ofInt (n : Int) : Number := .signed (n < 0) (.ofNat n.natAbs)

/-- Where a number stands on the number line: the code of its magnitude, negated by its sign. -/
def place : Number → Option Int
  | .nan => none
  | .signed true m => some (-m.code)
  | .signed false m => some m.code

/-- Numeric comparison; there is none with a value that is not a number. -/
def compare? (x y : Number) : Option Ordering :=
  match x.place, y.place with
  | some a, some b => some (compare a b)
  | _, _ => none

/-- Numeric equality: the zeros are equal, and a value that is not a number equals nothing. -/
def numericEq (x y : Number) : Bool := x.compare? y == some .eq

/-- The order used for sorting: numeric, with all values that are not a number equal and last. -/
def sortCompare (x y : Number) : Ordering :=
  match x.place, y.place with
  | some a, some b => compare a b
  | some _, none => .lt
  | none, some _ => .gt
  | none, none => .eq

/-- The smaller of two numbers, the first of two equal ones. A value that is not a number yields to the other. -/
def min (x y : Number) : Number :=
  match x, y with
  | .nan, y => y
  | x, .nan => x
  | x, y => if y.compare? x == some .lt then y else x

/-- The larger of two numbers, the first of two equal ones. A value that is not a number yields to the other. -/
def max (x y : Number) : Number :=
  match x, y with
  | .nan, y => y
  | x, .nan => x
  | x, y => if y.compare? x == some .gt then y else x

/-- The units of a finite number with their sign. -/
def signedUnits (negative : Bool) (m : Magnitude) : Int :=
  if negative then -(m.units : Int) else m.units

/-- Addition. A sum that is exactly zero is negative only when both operands are. -/
def add : Number → Number → Number
  | .nan, _ => .nan
  | _, .nan => .nan
  | .signed s m, .signed t n =>
    if m.isFinite && n.isFinite then
      let total := signedUnits s m + signedUnits t n
      if total = 0 then .signed (s && t) .zero
      else .signed (total < 0) (.nearest total.natAbs 1)
    else if m.isFinite then .signed t n
    else if n.isFinite || s == t then .signed s m
    else .nan

/-- Multiplication. -/
def mul : Number → Number → Number
  | .nan, _ => .nan
  | _, .nan => .nan
  | .signed s m, .signed t n =>
    if m.isFinite && n.isFinite then .signed (s != t) (.nearest (m.units * n.units) Magnitude.perOne)
    else if m.code = 0 || n.code = 0 then .nan
    else .signed (s != t) .infinity

/-- Division. -/
def div : Number → Number → Number
  | .nan, _ => .nan
  | _, .nan => .nan
  | .signed s m, .signed t n =>
    if m.isFinite && n.isFinite then
      if n.code = 0 then if m.code = 0 then .nan else .signed (s != t) .infinity
      else .signed (s != t) (.nearest (m.units * Magnitude.perOne) n.units)
    else if m.isFinite then .signed (s != t) .zero
    else if n.isFinite then .signed (s != t) .infinity
    else .nan

/-- The sum of a list, taken from the left. It starts at negative zero, the neutral element of addition. -/
def sum (numbers : List Number) : Number := numbers.foldl add negativeZero

instance : Inhabited Number := ⟨zero⟩

@[simp]
theorem place_zero : place zero = some 0 := rfl

@[simp]
theorem place_negativeZero : place negativeZero = some 0 := rfl

@[simp]
theorem place_nan : place nan = none := rfl

end Number

end TableQuery
