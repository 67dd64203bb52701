import TableQuery.Query.Json
import TableQuery.Source.Path
import TableQuery.Yaml.Decode

/-!
Queries as YAML, and queries as files.

The fields are those of queries as JSON. The extension of a file tells in which of the two forms it holds a query.
-/

namespace TableQuery

open Yaml

def SearchTerm.decodeYaml : Decoder SearchTerm :=
  .record
    [.of "column" .cellText fun column term => { term with column := column },
      .of "value" .cellText fun value term => { term with value := value }]
    ⟨"", ""⟩

/-- A token that may be missing, read as a value of some type. -/
def decodeToken {α : Type} (default : α) (ofToken : String → α) : Decoder α := fun aliases node =>
  (fun token => (token.map ofToken).getD default) <$> Decoder.optional .string aliases node

def Condition.decodeYaml : Decoder Condition :=
  .record
    [.of "logic" (decodeToken .and Connective.ofToken) fun value c => { c with connective := value },
      .of "leftAgg" (decodeToken none Aggregate.ofToken?) fun value c => { c with leftAggregate := value },
      .of "leftCol" .cellText fun value c => { c with leftColumn := value },
      .of "op" (decodeToken (.unknown "") Operator.ofToken) fun value c => { c with operator := value },
      .of "rightAgg" (decodeToken none Aggregate.ofToken?) fun value c => { c with rightAggregate := value },
      .of "rightCol" .cellText fun value c => { c with rightColumn := value },
      .of "rightValue" .cellText fun value c => { c with rightValue := value }]
    {}

def Sorting.decodeYaml : Decoder Sorting :=
  .record
    [.of "column" .cellText fun value s => { s with column := value },
      .of "order" (decodeToken .asc Direction.ofToken) fun value s => { s with direction := value }]
    {}

namespace Query

/-- A list that may be null. -/
def decodeYamlList {α : Type} (decode : Decoder α) : Decoder (List α) := fun aliases node =>
  (·.getD []) <$> Decoder.optional (.list decode) aliases node

def decodeYaml : Decoder Query :=
  .record
    [.of "search" (decodeYamlList SearchTerm.decodeYaml) fun value q => { q with search := value },
      .of "filters" (decodeYamlList Condition.decodeYaml) fun value q => { q with conditions := value },
      .of "sort" (.optional Sorting.decodeYaml) fun value q => { q with sorting := value }]
    {}

/-- Reads a query from a YAML text. -/
def ofYamlText (text : String) : Option Query := decodeYaml.run text

end Query

/-- The forms in which a file can hold a query. -/
inductive QueryFormat where
  | json
  | yaml
deriving DecidableEq

/-- Why a text holds no query. -/
inductive QueryError where
  | json (error : Json.DecodeError)
  | yaml

/-- What is wrong with a text; what the reader of YAML says of it is left out. -/
def QueryError.message : QueryError → String
  | .json error => "invalid query model JSON: " ++ error.message
  | .yaml => "invalid query model YAML: "

namespace QueryFormat

/-- The form that the extension of a path stands for; any other than those of YAML means JSON. -/
def ofPath (path : String) : QueryFormat :=
  if Path.hasExtension path [['y', 'a', 'm', 'l'], ['y', 'm', 'l']] then .yaml else .json

/-- Reads a query in a form. -/
def read (format : QueryFormat) (text : String) : Except QueryError Query :=
  match format with
  | .json => (Query.ofJsonText text).mapError .json
  | .yaml =>
    match Query.ofYamlText text with
    | some q => .ok q
    | none => .error .yaml

end QueryFormat

end TableQuery
