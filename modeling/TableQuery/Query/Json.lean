import TableQuery.Query.Basic
import TableQuery.Row.Json

/-!
Queries as JSON.

Every field of a query and of its parts may be missing or null. Texts may be given as any scalar; operators,
connectives, directions and aggregates are tokens.
-/

namespace TableQuery

open Json

namespace SearchTerm

def toJson (term : SearchTerm) : Json := .object [("column", .string term.column), ("value", .string term.value)]

def decode : Decoder SearchTerm :=
  .record "SearchTerm"
    [.of "column" Cell.decodeText fun column term => { term with column := column },
      .of "value" Cell.decodeText fun value term => { term with value := value }]
    ⟨"", ""⟩

end SearchTerm

namespace Connective

def decode : Decoder Connective := fun draft => do
  return ((← Decoder.optional .string draft).map ofToken).getD .and

end Connective

namespace Operator

/-- A missing operator is one that is not known. -/
def decode : Decoder Operator := fun draft => do
  return ((← Decoder.optional .string draft).map ofToken).getD (.unknown "")

end Operator

namespace Aggregate

/-- The token of an aggregate that may be missing. -/
def optionalToken (aggregate : Option Aggregate) : String := (aggregate.map token).getD ""

/-- An aggregate that may be missing; a blank token means the same as none. -/
def decodeOptional : Decoder (Option Aggregate) := fun draft => do
  return (← Decoder.optional .string draft).bind ofToken?

end Aggregate

namespace Direction

def decode : Decoder Direction := fun draft => do
  return ((← Decoder.optional .string draft).map ofToken).getD .asc

end Direction

namespace Condition

def toJson (c : Condition) : Json :=
  .object
    [("logic", .string c.connective.token), ("leftAgg", .string (Aggregate.optionalToken c.leftAggregate)),
      ("leftCol", .string c.leftColumn), ("op", .string c.operator.token),
      ("rightAgg", .string (Aggregate.optionalToken c.rightAggregate)), ("rightCol", .string c.rightColumn),
      ("rightValue", .string c.rightValue)]

def decode : Decoder Condition :=
  .record "FilterCondition"
    [.of "logic" Connective.decode fun value c => { c with connective := value },
      .of "leftAgg" Aggregate.decodeOptional fun value c => { c with leftAggregate := value },
      .of "leftCol" Cell.decodeText fun value c => { c with leftColumn := value },
      .of "op" Operator.decode fun value c => { c with operator := value },
      .of "rightAgg" Aggregate.decodeOptional fun value c => { c with rightAggregate := value },
      .of "rightCol" Cell.decodeText fun value c => { c with rightColumn := value },
      .of "rightValue" Cell.decodeText fun value c => { c with rightValue := value }]
    {}

end Condition

namespace Sorting

def toJson (s : Sorting) : Json := .object [("column", .string s.column), ("order", .string s.direction.token)]

def decode : Decoder Sorting :=
  .record "SortSpec"
    [.of "column" Cell.decodeText fun value s => { s with column := value },
      .of "order" Direction.decode fun value s => { s with direction := value }]
    {}

end Sorting

namespace Query

def toJson (q : Query) : Json :=
  .object
    [("search", .array (q.search.map SearchTerm.toJson)), ("filters", .array (q.conditions.map Condition.toJson)),
      ("sort", (q.sorting.map Sorting.toJson).getD .null)]

/-- A list that may be null. -/
def decodeNullable {α : Type} (decode : Decoder α) : Decoder (List α) := fun draft => do
  return (← Decoder.optional (.list decode) draft).getD []

def decode : Decoder Query :=
  .record "QueryModel"
    [.of "search" (decodeNullable SearchTerm.decode) fun value q => { q with search := value },
      .of "filters" (decodeNullable Condition.decode) fun value q => { q with conditions := value },
      .of "sort" (.optional Sorting.decode) fun value q => { q with sorting := value }]
    {}

/-- Reads a query from a JSON text. -/
def ofJsonText (text : String) : Except DecodeError Query := decode.run text

/-- The JSON text of a query, over several lines. -/
def toJsonText (q : Query) : String := String.ofList q.toJson.pretty

end Query

end TableQuery
