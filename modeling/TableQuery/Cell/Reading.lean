import TableQuery.Cell.Basic
import TableQuery.Text.Blank

/-!
Readings of cells as numbers.

Three readings are in use. `leadingNumber?` takes the longest number at the start of a cell's text, so `12px` reads as
twelve. `interpret` turns text into a number only when all of it is one. `ofLooseText` is the reading behind the
equality of a number with a text; it also knows hexadecimal, octal and binary integers.
-/

namespace TableQuery

namespace Number

def infinityWord : List Char := ['I', 'n', 'f', 'i', 'n', 'i', 't', 'y']

/-- The longest number at the start of a text, and the text after it: a decimal literal or a signed `Infinity`. -/
def scan (text : List Char) : Option (Number × List Char) :=
  let (negative, rest) := Decimal.scanSign text
  if infinityWord.isPrefixOf rest then some (.signed negative .infinity, rest.drop infinityWord.length)
  else (Decimal.scanUnsigned negative rest).map fun (d, tail) => (d.toNumber, tail)

/-- The number that a whole text is, blanks around it aside. -/
def ofText? (text : List Char) : Option Number :=
  match scan (Text.trim text) with
  | some (n, []) => some n
  | _ => none

/-- The value of a digit in a radix of at most sixteen. -/
def radixDigit? (radix : Nat) (c : Char) : Option Nat :=
  let value? :=
    if '0' ≤ c && c ≤ '9' then some (c.toNat - '0'.toNat)
    else if 'a' ≤ c && c ≤ 'f' then some (c.toNat - 'a'.toNat + 10)
    else if 'A' ≤ c && c ≤ 'F' then some (c.toNat - 'A'.toNat + 10)
    else none
  value?.filter (· < radix)

/-- The number that digits of a radix stand for, rounded after every digit; not a number without digits or with a
character that is none. -/
def ofRadixDigits (radix : Nat) (digits : List Char) : Number :=
  let append (n : Number) (c : Char) : Option Number :=
    (radixDigit? radix c).map fun d => (n.mul (.ofNat radix)).add (.ofNat d)
  if digits.isEmpty then nan else (digits.foldlM append zero).getD nan

/-- The radix announced by the first two characters of a text, with the text after them. -/
def radixMark? : List Char → Option (Nat × List Char)
  | '0' :: mark :: rest =>
    if mark = 'x' || mark = 'X' then some (16, rest)
    else if mark = 'o' || mark = 'O' then some (8, rest)
    else if mark = 'b' || mark = 'B' then some (2, rest)
    else none
  | _ => none

/-- The number that a text equals: blank text is zero, and text that is no number equals none. -/
def ofLooseText (text : List Char) : Number :=
  let text := Text.trim text
  if text.isEmpty then zero
  else
    match radixMark? text with
    | some (radix, digits) => ofRadixDigits radix digits
    | none => (ofText? text).getD nan

end Number

namespace Cell

/-- The number at the start of a cell; blanks before it are skipped. -/
def leadingNumber? : Cell → Option Number
  | .number n => if n.isNan then none else some n
  | .text s => (Number.scan (Text.trimStart s.toList)).map Prod.fst
  | .null => none

/-- Text that is a number as a whole, as that number; every other cell as it is. -/
def interpret : Cell → Cell
  | .text s =>
    match Number.ofText? s.toList with
    | some n => .number n
    | none => .text s
  | c => c

/-- Loose equality: like kinds by value, a number and a text by the number that the text equals. -/
def looseEq : Cell → Cell → Bool
  | .null, .null => true
  | .text s, .text t => s == t
  | .number m, .number n => m.numericEq n
  | .number n, .text s => n.numericEq (.ofLooseText s.toList)
  | .text s, .number n => n.numericEq (.ofLooseText s.toList)
  | _, _ => false

end Cell

end TableQuery
