import TableQuery.Number.Decimal

/-!
Shortest decimals.

`Magnitude.shortest` picks, among the decimals that read back to a magnitude, one with the fewest digits, and of those
the closest. The search tries one to seventeen digits; on each grid only the two neighbours of the exact value need to
be tried. Should no grid have a hit, the exact value itself is taken, so what is picked always reads back.
-/

namespace TableQuery

/-- Which of two decimals that are equally close to the exact value is picked. -/
inductive Tie where
  | up
  | toEven
deriving DecidableEq

/-- The significant digits of a positive decimal, `d.ddd * 10 ^ lead`, without trailing zeros. -/
structure Digits where
  digits : List Char
  lead : Int
deriving DecidableEq

namespace Digits

/-- The digits of `coefficient * 10 ^ exponent`. -/
def ofDecimal (coefficient : Nat) (exponent : Int) : Digits :=
  let all := Nat.toDigits 10 coefficient
  ⟨(all.reverse.dropWhile (· = '0')).reverse, exponent + all.length - 1⟩

end Digits

namespace Magnitude

/-- A finite magnitude in steps of `10 ^ (-1074)`, of which it is a whole multiple. -/
def exactCoefficient (m : Magnitude) : Nat := m.units * Nat.pow 5 1074

/-- Whether the upper one of two neighbouring decimals is picked for a value that lies `excess / step` above the lower
one, whose coefficient is `down`. -/
def picksUpper (tie : Tie) (down excess step : Nat) : Bool :=
  match compare (2 * excess) step, tie with
  | .lt, _ => false
  | .gt, _ => true
  | .eq, .up => true
  | .eq, .toEven => down % 2 == 1

/-- The decimal in steps of `10 ^ (dropped - 1074)` that reads back to `m`; the closer one if both neighbours of `m` on
that grid do. -/
def readingBack? (tie : Tie) (m : Magnitude) (dropped : Nat) : Option (Nat × Int) :=
  let step := Nat.pow 10 dropped
  let exponent := (dropped : Int) - 1074
  let down := m.exactCoefficient / step
  let up := down + 1
  if ofDecimal down exponent = m then
    if picksUpper tie down (m.exactCoefficient % step) step && ofDecimal up exponent = m then some (up, exponent)
    else some (down, exponent)
  else if ofDecimal up exponent = m then some (up, exponent)
  else none

/-- The number of decimal digits of an integer. Its binary length gives it up to one, because `1233 / 4096` is a little
less than the decimal logarithm of two. -/
def digitCount (n : Nat) : Nat :=
  let least := n.log2 * 1233 / 4096 + 1
  if n < Nat.pow 10 least then least else least + 1

/-- The shortest decimal that reads back to a finite magnitude, as coefficient and exponent. -/
def shortest (tie : Tie) (m : Magnitude) : Nat × Int :=
  let width := digitCount m.exactCoefficient
  ((List.range 17).findSome? fun n => m.readingBack? tie (width - (n + 1))).getD (m.exactCoefficient, -1074)

/-- The shortest digits of a finite magnitude. -/
def shortestDigits (tie : Tie) (m : Magnitude) : Digits :=
  let decimal := m.shortest tie
  .ofDecimal decimal.1 decimal.2

end Magnitude

end TableQuery
