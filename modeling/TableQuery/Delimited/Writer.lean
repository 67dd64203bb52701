/-!
Writing of delimited text.

Fields are separated by commas and records end with a line feed. A quoted field has every quote in it doubled, so any
text can be a field.
-/

namespace TableQuery.Delimited

/-- Which fields are quoted. -/
inductive Quoting where
  | always
  /-- Only fields that would be read differently without quotes. -/
  | whenNeeded
deriving DecidableEq

def escape (c : Char) : List Char := if c = '"' then ['"', '"'] else [c]

def quote (field : List Char) : List Char := '"' :: (field.flatMap escape ++ ['"'])

/-- Whether a character inside a field calls for quotes. -/
def isSpecial (c : Char) : Bool := c = ',' || c = '"' || c = '\n' || c = '\r'

def encode (quoting : Quoting) (field : String) : List Char :=
  if quoting = .always || field.toList.any isSpecial then quote field.toList else field.toList

/-- The fields of a record, one after the other; `first` tells that no comma is due. -/
def writeFields (quoting : Quoting) (first : Bool) : List String → List Char
  | [] => []
  | field :: rest => (if first then [] else [',']) ++ encode quoting field ++ writeFields quoting false rest

/-- A record as a line; one that would leave the line empty is written as an empty quoted field. -/
def writeRecord (quoting : Quoting) (fields : List String) : List Char :=
  let line := writeFields quoting true fields
  (if line.isEmpty then ['"', '"'] else line) ++ ['\n']

def write (quoting : Quoting) (records : List (List String)) : List Char := records.flatMap (writeRecord quoting)

end TableQuery.Delimited
