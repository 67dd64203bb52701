import TableQuery.Cell.Basic
import TableQuery.Cell.Order
import TableQuery.Cell.Reading
import TableQuery.Command.Arguments
import TableQuery.Command.Basic
import TableQuery.Command.Writing
import TableQuery.Delimited.Reader
import TableQuery.Delimited.Writer
import TableQuery.Export.Basic
import TableQuery.Export.Table
import TableQuery.Export.Terminal
import TableQuery.Json.Basic
import TableQuery.Json.Decode
import TableQuery.Json.Draft
import TableQuery.Json.Numeral
import TableQuery.Json.Printer
import TableQuery.Main
import TableQuery.Number.Basic
import TableQuery.Number.Decimal
import TableQuery.Number.Layout
import TableQuery.Number.Magnitude
import TableQuery.Number.Shortest
import TableQuery.OrderedMap
import TableQuery.Proofs.Cell.Order
import TableQuery.Proofs.Delimited.RoundTrip
import TableQuery.Proofs.Json.Decode
import TableQuery.Proofs.Json.Gathered
import TableQuery.Proofs.Json.Lexeme
import TableQuery.Proofs.Json.NumberText
import TableQuery.Proofs.Json.Printed
import TableQuery.Proofs.Json.Reread
import TableQuery.Proofs.Json.Scale
import TableQuery.Proofs.Number.Arithmetic
import TableQuery.Proofs.Number.Codes
import TableQuery.Proofs.Number.Digits
import TableQuery.Proofs.Number.Distance
import TableQuery.Proofs.Number.Integral
import TableQuery.Proofs.Number.Nearest
import TableQuery.Proofs.Number.PowersOfTen
import TableQuery.Proofs.Number.Range
import TableQuery.Proofs.Number.Scaling
import TableQuery.Proofs.Number.Shortest
import TableQuery.Proofs.OrderedMap
import TableQuery.Proofs.Query.Denotation
import TableQuery.Proofs.Query.RoundTrip
import TableQuery.Proofs.Query.Sorting
import TableQuery.Proofs.Query.Tokens
import TableQuery.Proofs.Source.ColumnNames
import TableQuery.Proofs.Source.Reload
import TableQuery.Proofs.Source.SheetRows
import TableQuery.Proofs.StableSort
import TableQuery.Proofs.Text.Blank
import TableQuery.Query.Aggregate
import TableQuery.Query.Basic
import TableQuery.Query.Condition
import TableQuery.Query.Flags
import TableQuery.Query.Json
import TableQuery.Query.Operator
import TableQuery.Query.Search
import TableQuery.Query.Sorting
import TableQuery.Query.Yaml
import TableQuery.Row.Basic
import TableQuery.Row.Json
import TableQuery.Source.Basic
import TableQuery.Source.Delimited
import TableQuery.Source.Format
import TableQuery.Source.Json
import TableQuery.Source.Path
import TableQuery.Source.Workbook
import TableQuery.Text.Blank
import TableQuery.Text.LowerCase
import TableQuery.Text.LowerCase.Table
import TableQuery.Text.Occurrence
import TableQuery.Text.Quoted
import TableQuery.Text.Quoted.Table
import TableQuery.Text.Ranges
import TableQuery.Text.Width
import TableQuery.Text.Width.Table
import TableQuery.Yaml.Character
import TableQuery.Yaml.Cursor
import TableQuery.Yaml.Decode
import TableQuery.Yaml.Node
import TableQuery.Yaml.Printer
import TableQuery.Yaml.Scalar
import TableQuery.Yaml.Style
import TableQuery.Yaml.Token.Basic
import TableQuery.Yaml.Token.Lexer
import TableQuery.Yaml.Token.Scalar
import TableQuery.Proofs.Query.Narrowing
import TableQuery.Proofs.Query.Flags
import TableQuery.Proofs.Command.Header
import TableQuery.Proofs.Source.JsonReload
import TableQuery.Proofs.Cell.Reading
import TableQuery.Proofs.Cell.NumberText
import TableQuery.Proofs.Query.OwnText
import TableQuery.Proofs.Query.Idempotence
import TableQuery.Proofs.Cell.Alike
import TableQuery.Proofs.Cell.Literal
import TableQuery.Proofs.Cell.LooseText
import TableQuery.Proofs.Cell.LongestNumber
import TableQuery.Proofs.Number.Words
import TableQuery.Proofs.Query.Preorder
import TableQuery.Proofs.Query.RowOrder
import TableQuery.Proofs.Query.NumericOrder
import TableQuery.Proofs.Query.Chain
import TableQuery.Proofs.Text.LowerCase
import TableQuery.Proofs.Query.Search
import TableQuery.Proofs.Query.Extremes
import TableQuery.Proofs.Json.Members
import TableQuery.Proofs.Query.Edits
import TableQuery.Proofs.Json.Document
import TableQuery.Proofs.Source.JsonGrammar
import TableQuery.Proofs.Number.Places
import TableQuery.Proofs.Query.LoneRow
import TableQuery.Proofs.Number.Mean
import TableQuery.Proofs.Query.Average
import TableQuery.Proofs.Source.RowDecoding
import TableQuery.Proofs.Source.Catalog
import TableQuery.Proofs.Query.OperatorLaws
import TableQuery.Proofs.Number.Appended
import TableQuery.Proofs.Cell.RadixText
import TableQuery.Proofs.Row.History
import TableQuery.Proofs.Query.FlagText
import TableQuery.Proofs.Text.Width
import TableQuery.Proofs.Export.Alignment
import TableQuery.Proofs.Command.Writing
