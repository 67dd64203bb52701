import TableQuery.Query.Condition
import TableQuery.Query.Search
import TableQuery.Query.Sorting

/-!
Queries.

A query searches, then filters, then sorts. The aggregates of its conditions range over the rows that the search has
left, before any condition removes one. Running a query prepares its needles and predicates once; `denote` says what it
means one row at a time.
-/

namespace TableQuery

structure Query where
  search : List SearchTerm := []
  conditions : List Condition := []
  sorting : Option Sorting := none
deriving DecidableEq, Inhabited

namespace Query

/-- Whether a query leaves every table as it is. -/
def isEmpty (q : Query) : Bool := q.search.isEmpty && q.conditions.isEmpty && !q.sorting.any Sorting.isActive

/-- Appends a search term. -/
def withSearch (q : Query) (term : SearchTerm) : Query := { q with search := q.search ++ [term] }

/-- Appends a condition. -/
def withCondition (q : Query) (condition : Condition) : Query := { q with conditions := q.conditions ++ [condition] }

def withSorting (q : Query) (sorting : Sorting) : Query := { q with sorting := some sorting }

/-- Appends search terms, and replaces the sorting if one is given. -/
def withFlags (q : Query) (terms : List SearchTerm) (sorting : Option Sorting) : Query :=
  { q with search := q.search ++ terms, sorting := sorting <|> q.sorting }

/-- The rows that the search leaves. -/
def searched (q : Query) (rows : List Row) : List Row :=
  let needles := q.search.map SearchTerm.needle
  rows.filter fun row => needles.all (·.finds row)

/-- The rows that the conditions leave of a domain. -/
def filtered (q : Query) (domain : List Row) : List Row :=
  if q.conditions.isEmpty then domain
  else
    let predicates := q.conditions.map (·.compile domain)
    domain.filter (Predicate.fold predicates)

/-- The rows in the order that the query asks for. -/
def sorted (q : Query) (rows : List Row) : List Row :=
  match q.sorting with
  | some sorting => sorting.sort rows
  | none => rows

/-- The rows that a query finds. -/
def run (q : Query) (rows : List Row) : List Row := q.sorted (q.filtered (q.searched rows))

/-- Whether a chain of conditions, joined from the left, holds of a row. -/
def chainHolds (conditions : List Condition) (row : Row) (domain : List Row) : Bool :=
  match conditions with
  | [] => true
  | first :: others =>
    others.foldl (fun held c => c.connective.combine held (c.denote row domain)) (first.denote row domain)

/-- What a query means, with every term and condition read anew for every row. -/
def denote (q : Query) (rows : List Row) : List Row :=
  let domain := rows.filter (SearchTerm.allFind q.search)
  let kept := domain.filter fun row => chainHolds q.conditions row domain
  match q.sorting.filter Sorting.isActive with
  | some sorting => kept.mergeSort fun a b => sorting.compare a b != .gt
  | none => kept

end Query

end TableQuery
