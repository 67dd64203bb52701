import TableQuery.Row.Basic
import TableQuery.Text.Blank
import TableQuery.Text.LowerCase
import TableQuery.Text.Occurrence

/-!
Search terms.

A search term looks for a text inside the cells of one column, without regard to letter case or to blanks at the ends.
Several terms are joined: a row is found only if every term matches it.
-/

namespace TableQuery

structure SearchTerm where
  column : String
  value : String
deriving DecidableEq

namespace SearchTerm

/-- The form in which texts are searched: in lower case, then trimmed. -/
def normalize (text : String) : List Char := Text.trim (Text.lowerCase text.toList)

/-- A term whose text is already in the form in which texts are searched. -/
structure Needle where
  column : String
  text : List Char

def needle (term : SearchTerm) : Needle := ⟨term.column, normalize term.value⟩

/-- Whether a needle occurs in a row's cell. -/
def Needle.finds (needle : Needle) (row : Row) : Bool :=
  Text.occursIn needle.text (normalize (row.value needle.column).toText)

/-- Whether a term's text occurs in a row's cell. An absent cell has the empty text. -/
def finds (term : SearchTerm) (row : Row) : Bool := term.needle.finds row

/-- Whether every term matches a row. -/
def allFind (terms : List SearchTerm) (row : Row) : Bool := terms.all (·.finds row)

end SearchTerm

end TableQuery
