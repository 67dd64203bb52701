import TableQuery.Query.Aggregate
import TableQuery.Query.Operator

/-!
Filter conditions.

A condition compares two operands. An operand names a column, which is read in the row at hand or, under an aggregate,
over all rows of the domain; the right operand may also be a literal text. Conditions are joined strictly from the left,
each by its own connective, without precedence; the connective of the first one is not used.
-/

namespace TableQuery

/-- How a condition joins the conditions before it. -/
inductive Connective where
  | and
  | or
deriving DecidableEq, Inhabited

namespace Connective

/-- Anything but `OR`, in any letter case, means `and`. -/
def ofToken (token : String) : Connective :=
  if Text.eqIgnoringCase token.toList ['o', 'r'] then .or else .and

def token : Connective → String
  | .and => "AND"
  | .or => "OR"

def combine : Connective → Bool → Bool → Bool
  | .and, a, b => a && b
  | .or, a, b => a || b

end Connective

structure Condition where
  connective : Connective := .and
  leftAggregate : Option Aggregate := none
  leftColumn : String := ""
  operator : Operator := .unknown ""
  rightAggregate : Option Aggregate := none
  rightColumn : String := ""
  /-- The literal on the right, used when neither a column nor an aggregate is named there. -/
  rightValue : String := ""
deriving DecidableEq, Inhabited

/-- An operand with all that does not depend on the row at hand already computed. -/
inductive Operand where
  | column (name : String)
  | fixed (cell : Cell)

namespace Operand

/-- An operand that names a column; a column without a name is empty whatever the aggregate. -/
def ofColumn (aggregate : Option Aggregate) (column : String) (domain : List Row) : Operand :=
  if column = "" then .fixed .null
  else
    match aggregate with
    | none => .column column
    | some aggregate => .fixed (aggregate.compute domain column)

def resolve (row : Row) : Operand → Cell
  | .column name => row.value name
  | .fixed cell => cell

/-- The cell that a named column stands for, read for one row with the aggregate taken over a domain. -/
def cell (aggregate : Option Aggregate) (column : String) (row : Row) (domain : List Row) : Cell :=
  if column = "" then .null
  else
    match aggregate with
    | none => row.value column
    | some aggregate => aggregate.compute domain column

end Operand

/-- A condition prepared for the rows of one domain. -/
structure Predicate where
  connective : Connective
  operator : Operator
  left : Operand
  right : Operand

namespace Predicate

def holds (p : Predicate) (row : Row) : Bool := p.operator.holds (p.left.resolve row) (p.right.resolve row)

/-- Joins predicates from the left; an empty list holds of every row. -/
def fold (predicates : List Predicate) (row : Row) : Bool :=
  match predicates with
  | [] => true
  | first :: others => others.foldl (fun held p => p.connective.combine held (p.holds row)) (first.holds row)

end Predicate

namespace Condition

/-- Compares a column with a literal. -/
def ofLiteral (column : String) (operator : Operator) (value : String) : Condition :=
  { leftColumn := column, operator := operator, rightValue := value }

/-- Compares two columns of a row. -/
def ofColumns (left : String) (operator : Operator) (right : String) : Condition :=
  { leftColumn := left, operator := operator, rightColumn := right }

/-- Sets how a condition joins the conditions before it. -/
def withConnective (c : Condition) (connective : Connective) : Condition := { c with connective := connective }

/-- Takes an aggregate of the column on the left. -/
def withLeftAggregate (c : Condition) (aggregate : Aggregate) : Condition := { c with leftAggregate := some aggregate }

/-- Compares with an aggregate of a column. -/
def withRightAggregate (c : Condition) (aggregate : Aggregate) (column : String) : Condition :=
  { c with rightAggregate := some aggregate, rightColumn := column }

/-- Whether the right operand is a column or an aggregate, not the literal. -/
def hasRightOperand (c : Condition) : Bool := c.rightAggregate.isSome || c.rightColumn != ""

/-- Prepares a condition for the rows of a domain. -/
def compile (c : Condition) (domain : List Row) : Predicate where
  connective := c.connective
  operator := c.operator
  left := .ofColumn c.leftAggregate c.leftColumn domain
  right :=
    if c.hasRightOperand then .ofColumn c.rightAggregate c.rightColumn domain
    else .fixed (Cell.text c.rightValue).interpret

/-- Whether a condition by itself holds of a row, with aggregates over a domain. -/
def holds (c : Condition) (row : Row) (domain : List Row) : Bool := (c.compile domain).holds row

/-- The cell on the left, read for one row. -/
def leftCell (c : Condition) (row : Row) (domain : List Row) : Cell :=
  Operand.cell c.leftAggregate c.leftColumn row domain

/-- The cell on the right, read for one row. -/
def rightCell (c : Condition) (row : Row) (domain : List Row) : Cell :=
  if c.hasRightOperand then Operand.cell c.rightAggregate c.rightColumn row domain
  else (Cell.text c.rightValue).interpret

/-- What a condition says of a row, with nothing prepared: both cells are read for this row. -/
def denote (c : Condition) (row : Row) (domain : List Row) : Bool :=
  c.operator.holds (c.leftCell row domain) (c.rightCell row domain)

end Condition

end TableQuery
