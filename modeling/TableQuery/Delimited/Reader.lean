/-!
Reading of delimited text.

A record is a line of fields, separated by the delimiter. A field that starts with a quote runs to the next quote that
is not doubled, over delimiters and line ends alike; whatever follows the closing quote is appended as it stands. A
quote anywhere else is an ordinary character. Lines end with a line feed, a carriage return, or both; empty lines
between records are no records.

`step` reads one character, so that reading is a fold over the text and splits wherever the text does.
-/

namespace TableQuery.Delimited

/-- Where in a record the reader stands. -/
inductive Place where
  /-- Before the first character of a record. -/
  | lineStart
  /-- After a carriage return that ended a record: a line feed belongs to it. -/
  | returnSeen
  | fieldStart
  /-- In a field, outside of quotes. -/
  | bare
  /-- In the quoted part of a field. -/
  | quoted
  /-- After a quote in the quoted part: the closing quote, or the first of a doubled one. -/
  | quoteSeen
deriving DecidableEq

/-- What has been read so far; all three lists have their latest element first. -/
structure Scan where
  place : Place := .lineStart
  field : List Char := []
  fields : List String := []
  records : List (List String) := []

namespace Scan

def take (s : Scan) (place : Place) (c : Char) : Scan := { s with place := place, field := c :: s.field }

def endField (s : Scan) : Scan :=
  { s with place := .fieldStart, field := [], fields := String.ofList s.field.reverse :: s.fields }

def endRecord (s : Scan) (place : Place) : Scan :=
  let fields := String.ofList s.field.reverse :: s.fields
  { place := place, field := [], fields := [], records := fields.reverse :: s.records }

/-- Reads a character outside of quotes. -/
def bareStep (delimiter : Char) (s : Scan) (c : Char) : Scan :=
  if c = delimiter then s.endField
  else if c = '\n' then s.endRecord .lineStart
  else if c = '\r' then s.endRecord .returnSeen
  else s.take .bare c

/-- Reads the first character of a field. -/
def fieldStep (delimiter : Char) (s : Scan) (c : Char) : Scan :=
  if c = '"' then { s with place := .quoted } else s.bareStep delimiter c

/-- Reads the first character of a line. -/
def lineStep (delimiter : Char) (s : Scan) (c : Char) : Scan :=
  if c = '\n' || c = '\r' then { s with place := .lineStart } else s.fieldStep delimiter c

def step (delimiter : Char) (s : Scan) (c : Char) : Scan :=
  match s.place with
  | .lineStart => s.lineStep delimiter c
  | .returnSeen => if c = '\n' then { s with place := .lineStart } else s.lineStep delimiter c
  | .fieldStart => s.fieldStep delimiter c
  | .bare => s.bareStep delimiter c
  | .quoted => if c = '"' then { s with place := .quoteSeen } else s.take .quoted c
  | .quoteSeen => if c = '"' then s.take .quoted c else s.bareStep delimiter c

/-- The records of a text that ends here; a record that has begun ends with it. -/
def finish (s : Scan) : List (List String) :=
  match s.place with
  | .lineStart | .returnSeen => s.records.reverse
  | _ => (s.endRecord .lineStart).records.reverse

end Scan

/-- The mark that a text may start with to show its encoding. -/
def byteOrderMark : Char := '\ufeff'

def dropMark : List Char → List Char
  | c :: rest => if c = byteOrderMark then rest else c :: rest
  | [] => []

/-- The records of a delimited text. -/
def records (delimiter : Char) (content : List Char) : List (List String) :=
  (content.foldl (Scan.step delimiter) {}).finish

end TableQuery.Delimited
