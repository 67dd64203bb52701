import TableQuery.Number.Decimal
import TableQuery.Cell.Reading

/-!
Plain scalars of YAML.

A scalar without quotes and tag is null, a truth value, an integer, a real number or a text, by its spelling. Integers
may be written in four radices; digits after a leading zero are a text.
-/

namespace TableQuery.Yaml

/-- A scalar value. -/
inductive Scalar where
  | null
  | bool (b : Bool)
  | integer (n : Int)
  | real (x : Number)
  | text (s : List Char)
deriving DecidableEq

namespace Scalar

def isNullWord (s : List Char) : Bool :=
  s = ['~'] || s = ['n', 'u', 'l', 'l'] || s = ['N', 'u', 'l', 'l'] || s = ['N', 'U', 'L', 'L']

def isTrueWord (s : List Char) : Bool :=
  s = ['t', 'r', 'u', 'e'] || s = ['T', 'r', 'u', 'e'] || s = ['T', 'R', 'U', 'E']

def isFalseWord (s : List Char) : Bool :=
  s = ['f', 'a', 'l', 's', 'e'] || s = ['F', 'a', 'l', 's', 'e'] || s = ['F', 'A', 'L', 'S', 'E']

def isInfinityWord (s : List Char) : Bool :=
  s = ['.', 'i', 'n', 'f'] || s = ['.', 'I', 'n', 'f'] || s = ['.', 'I', 'N', 'F']

def isNanWord (s : List Char) : Bool :=
  s = ['.', 'n', 'a', 'n'] || s = ['.', 'N', 'a', 'N'] || s = ['.', 'N', 'A', 'N']

def bool? (s : List Char) : Option Bool :=
  if isTrueWord s then some true else if isFalseWord s then some false else none

/-- The text without a plus sign at its start; nothing if another sign follows it. -/
def dropPlus? : List Char → Option (List Char)
  | '+' :: '+' :: _ | '+' :: '-' :: _ => none
  | '+' :: rest => some rest
  | s => some s

/-- Whether a text is a zero and further digits, perhaps after a sign. Such a text is no number. -/
def hasLeadingZero (s : List Char) : Bool :=
  let unsigned := match s with
    | '+' :: rest | '-' :: rest => rest
    | _ => s
  match unsigned with
  | '0' :: digit :: rest => (digit :: rest).all Decimal.isDigit
  | _ => false

/-- The value of digits in a radix, if there are some and all are digits of the radix. -/
def natural? (radix : Nat) (digits : List Char) : Option Nat :=
  if digits.isEmpty then none
  else
    digits.foldlM (fun n c => (Number.radixDigit? radix c).map fun digit => radix * n + digit) 0

/-- The value of digits behind the mark of their radix, or of decimal digits without a mark. -/
def unsignedInteger? (s : List Char) : Option Nat :=
  match s with
  | '0' :: 'x' :: digits => natural? 16 digits
  | '0' :: 'o' :: digits => natural? 8 digits
  | '0' :: 'b' :: digits => natural? 2 digits
  | _ => natural? 10 s

/-- The integer of a text; those of more than 128 bits are none. -/
def integer? (s : List Char) : Option Int :=
  if hasLeadingZero s then none
  else
    match s with
    | '-' :: digits => ((unsignedInteger? digits).filter (· ≤ 1 <<< 127)).map fun n => -(n : Int)
    | '+' :: digits | digits => ((unsignedInteger? digits).filter (· < 1 <<< 128)).map fun n => (n : Int)

/-- The real number of a text. Decimals that are out of range are none. -/
def real? (s : List Char) : Option Number := do
  let unplussed ← dropPlus? s
  if isInfinityWord unplussed then return .infinity
  if s.head? = some '-' && isInfinityWord (s.drop 1) then return .negativeInfinity
  if isNanWord s then return .nan
  let n := (← Decimal.parse? unplussed).toNumber
  if n.isFinite then return n
  none

/-- The value of a scalar that is written plainly. -/
def ofPlain (s : List Char) : Scalar :=
  if s.isEmpty || isNullWord s then .null
  else
    match bool? s with
    | some b => .bool b
    | none =>
      match integer? s with
      | some n => .integer n
      | none =>
        match if hasLeadingZero s then none else real? s with
        | some x => .real x
        | none => .text s

end Scalar

end TableQuery.Yaml
