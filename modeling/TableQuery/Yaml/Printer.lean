import TableQuery.Yaml.Style
import TableQuery.Json.Basic

/-!
Printing of YAML documents that are sequences of mappings.

Every mapping is an item of the sequence, and every entry of it is written on lines of its own. A key that is long or
has several lines is announced by a question mark.
-/

namespace TableQuery.Yaml

/-- Real numbers are written as in JSON documents, but without a plus sign and with words for the special values. -/
def numberLayout : Layout :=
  { Json.numberLayout with exponentPlus := false, nan := ".nan", infinity := ".inf", negativeInfinity := "-.inf" }

/-- How far a scalar inside an item is indented when it takes several lines. -/
def scalarIndent : Nat := 4

def writeInteger (n : Int) : List Char :=
  if n < 0 then '-' :: Nat.toDigits 10 n.natAbs else Nat.toDigits 10 n.natAbs

def Scalar.write : Scalar → List Char
  | .null => ['n', 'u', 'l', 'l']
  | .bool true => ['t', 'r', 'u', 'e']
  | .bool false => ['f', 'a', 'l', 's', 'e']
  | .integer n => writeInteger n
  | .real x => (numberLayout.render x).toList
  | .text s => writeText scalarIndent s

/-- Ends the line of a scalar, unless a block has ended it already. -/
def endLine (scalar : List Char) : List Char :=
  if scalar.getLast?.any isBreak then scalar else scalar ++ ['\n']

/-- The number of bytes that a text takes in a document. -/
def byteLength (s : List Char) : Nat := (String.ofList s).utf8ByteSize

/-- Whether a key is written on one line with its value. -/
def isSimpleKey (s : List Char) : Bool := !s.any isBreak && byteLength s ≤ 128

/-- An entry of a mapping. -/
def writeEntry (key : List Char) (value : Scalar) : List Char :=
  if isSimpleKey key then writeText scalarIndent key ++ ':' :: ' ' :: endLine value.write
  else '?' :: ' ' :: (endLine (writeText scalarIndent key) ++ [' ', ' ', ':', ' '] ++ endLine value.write)

/-- A mapping as an item of the sequence. -/
def writeItem : List (List Char × Scalar) → List Char
  | [] => ['-', ' ', '{', '}', '\n']
  | (key, value) :: rest =>
    '-' :: ' ' :: (writeEntry key value ++ rest.flatMap fun (key, value) => ' ' :: ' ' :: writeEntry key value)

/-- A sequence of mappings. -/
def write (items : List (List (List Char × Scalar))) : List Char :=
  if items.isEmpty then ['[', ']', '\n'] else items.flatMap writeItem

end TableQuery.Yaml
