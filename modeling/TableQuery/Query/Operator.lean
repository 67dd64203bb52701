import TableQuery.Cell.Reading

/-!
Comparison operators.

Equality is loose and compares whole cells; the relational operators compare the numbers at the start of both cells and
fail when one of them has none. A token that names no operator is kept, and never holds.
-/

namespace TableQuery

inductive Operator where
  | eq
  | ne
  | gt
  | lt
  | ge
  | le
  | unknown (token : String)
deriving DecidableEq

namespace Operator

def ofToken (token : String) : Operator :=
  if token = "=" then .eq
  else if token = "!=" then .ne
  else if token = ">" then .gt
  else if token = "<" then .lt
  else if token = ">=" then .ge
  else if token = "<=" then .le
  else .unknown token

def token : Operator → String
  | .eq => "="
  | .ne => "!="
  | .gt => ">"
  | .lt => "<"
  | .ge => ">="
  | .le => "<="
  | .unknown token => token

instance : Inhabited Operator := ⟨.unknown ""⟩

def isRelational : Operator → Bool
  | .gt | .lt | .ge | .le => true
  | _ => false

/-- Whether a relational operator holds of operands that compare in a given way. -/
def accepts : Operator → Ordering → Bool
  | .gt, o => o == .gt
  | .ge, o => o != .lt
  | .lt, o => o == .lt
  | .le, o => o != .gt
  | _, _ => false

/-- Whether a relational operator holds of the numbers at the start of two cells. -/
def relates (op : Operator) (left right : Cell) : Bool :=
  match left.leadingNumber?, right.leadingNumber? with
  | some a, some b => (a.compare? b).any op.accepts
  | _, _ => false

/-- Whether an operator holds of two cells. -/
def holds (op : Operator) (left right : Cell) : Bool :=
  match op with
  | .eq => left.looseEq right
  | .ne => !left.looseEq right
  | .unknown _ => false
  | op => op.relates left right

end Operator

end TableQuery
