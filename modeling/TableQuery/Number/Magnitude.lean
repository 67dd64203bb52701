/-!
Magnitudes of the binary64 format.

Every finite magnitude is a whole multiple of the least positive one, the *unit* `2 ^ (-1074)`. Magnitudes are numbered
in increasing order, and this number, the *code*, is all that is kept of them: `units` tells how many units a code
stands for, and `nearest` finds the code closest to a quotient of units, the even code on a tie. The code above all
finite ones stands for infinity.
-/

namespace TableQuery

/-- How many codes there are from one power of two up to the next. -/
def Magnitude.runLength : Nat := 1 <<< 52

/-- The code of infinity: one more than the code of the greatest finite magnitude. -/
def Magnitude.top : Nat := 2047 * runLength

/-- A magnitude of the binary64 format, infinity included. -/
structure Magnitude where
  code : Nat
  code_le_top : code ≤ Magnitude.top
deriving DecidableEq

namespace Magnitude

/-- How many units make one: the unit is `2 ^ (-1074)`. -/
def perOne : Nat := 1 <<< 1074

/-- The units that a code stands for. The codes of the first two runs count single units; after them each run steps
twice as far as the run before it. -/
def unitsOf (code : Nat) : Nat :=
  if code < 2 * runLength then code else (runLength + code % runLength) <<< (code / runLength - 1)

/-- The units that a magnitude stands for; for infinity, those of the first magnitude that is out of range. -/
def units (m : Magnitude) : Nat := unitsOf m.code

/-- The integer closest to `num / den`, the even one on a tie. -/
def roundQuotient (num den : Nat) : Nat :=
  match compare (2 * (num % den)) den with
  | .lt => num / den
  | .eq => num / den + (num / den) % 2
  | .gt => num / den + 1

/-- The code closest to `num / den` units, not bounded by `top`. A quotient of more than 53 bits is rounded after its
excess low bits are divided off; a carry out of the 53 bits lands on the first code of the next run by itself. -/
def nearestCode (num den : Nat) : Nat :=
  let excess := (num / den).log2 - 52
  excess * runLength + roundQuotient num (den <<< excess)

/-- The magnitude closest to `num / den` units, the one of even code on a tie; infinity out of range. -/
def nearest (num den : Nat) : Magnitude :=
  ⟨min (nearestCode num den) top, Nat.min_le_right ..⟩

def zero : Magnitude := ⟨0, Nat.zero_le _⟩

def infinity : Magnitude := ⟨top, Nat.le_refl _⟩

def isFinite (m : Magnitude) : Bool := m.code < top

/-- The magnitude closest to an integer. -/
def ofNat (n : Nat) : Magnitude := nearest (n * perOne) 1

/-- The magnitude closest to `coefficient * 10 ^ exponent`. The two early answers only avoid the powers of ten that are
far out of range. -/
def ofDecimal (coefficient : Nat) (exponent : Int) : Magnitude :=
  if coefficient = 0 then zero
  else if 310 < exponent then infinity
  else if exponent < -(400 + coefficient.log2) then zero
  else nearest (coefficient * Nat.pow 10 exponent.toNat * perOne) (Nat.pow 10 (-exponent).toNat)

/-- The integer that a magnitude is, if it is one. -/
def toNat? (m : Magnitude) : Option Nat :=
  if m.isFinite && m.units % perOne = 0 then some (m.units / perOne) else none

theorem code_injective {m n : Magnitude} (h : m.code = n.code) : m = n := by
  cases m; cases n; cases h; rfl

@[simp]
theorem units_zero : zero.units = 0 := rfl

end Magnitude

end TableQuery
