import TableQuery.Query.Basic
import TableQuery.Text.Occurrence

/-!
Flags that add to a query.

A search flag is a column and a value around the first `=`. A sort flag is a column, with a direction behind its last
`:` if that is one; otherwise all of it is the column, and the direction is ascending. No column may be empty.
-/

namespace TableQuery

/-- Why a flag cannot be read. -/
inductive FlagError where
  | noEquals (flag : String)
  | noColumn (flag : String)
deriving DecidableEq

def FlagError.message : FlagError → String
  | .noEquals flag => "expected COLUMN=VALUE, got '" ++ flag ++ "'"
  | .noColumn flag => "missing column name in '" ++ flag ++ "'"

/-- Reads a search flag. -/
def SearchTerm.ofFlag (flag : String) : Except FlagError SearchTerm :=
  match Text.splitFirst '=' flag.toList with
  | none => .error (.noEquals flag)
  | some ([], _) => .error (.noColumn flag)
  | some (column, value) => .ok ⟨String.ofList column, String.ofList value⟩

namespace Sorting

/-- The column and direction of a sort flag. -/
def splitFlag (flag : String) : Sorting :=
  match Text.splitLast ':' flag.toList with
  | some (column, order) =>
    if Text.eqIgnoringCase order ['a', 's', 'c'] then ⟨String.ofList column, .asc⟩
    else if Text.eqIgnoringCase order ['d', 'e', 's', 'c'] then ⟨String.ofList column, .desc⟩
    else ⟨flag, .asc⟩
  | none => ⟨flag, .asc⟩

/-- Reads a sort flag. -/
def ofFlag (flag : String) : Except FlagError Sorting :=
  let sorting := splitFlag flag
  if sorting.column = "" then .error (.noColumn flag) else .ok sorting

end Sorting

end TableQuery
