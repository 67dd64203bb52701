import TableQuery.Source.Basic
import TableQuery.Delimited.Reader

/-!
Tables from delimited text.

The first record names the columns; every later one is a row, whose cells are texts. A row that is shorter than the
header lacks the columns at the end, and cells beyond the header are dropped. A record with a single empty field is
skipped.
-/

namespace TableQuery

namespace Row

/-- The row that has texts under column names, as far as both go. -/
def ofTexts (columns cells : List String) : Row :=
  (columns.zip cells).foldl (fun row (column, cell) => row.insert column (.text cell)) OrderedMap.empty

end Row

namespace Source

/-- Whether a record stands for an empty line. -/
def isBlankRecord (record : List String) : Bool := record == [""]

/-- The rows of records of which the first is the header. -/
def rowsOfRecords : List (List String) → List Row
  | [] => []
  | header :: records => (records.filter (!isBlankRecord ·)).map (Row.ofTexts header)

/-- The one table of a delimited text. Up to two byte order marks at the start are no part of the text. -/
def ofDelimited (name : String) (delimiter : Char) (content : String) : Source :=
  single name (rowsOfRecords (Delimited.records delimiter (Delimited.dropMark (Delimited.dropMark content.toList))))

end Source

end TableQuery
