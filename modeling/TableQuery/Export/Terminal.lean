import TableQuery.Text.Width

/-!
Terminals.

How many columns a text takes is a matter of the terminal that shows it, and of the tables of characters that the
terminal follows. Output for a terminal is laid out by the terminal's own measure.
-/

namespace TableQuery

/-- The columns that texts take on a terminal. -/
class Terminal where
  width : List Char → Nat

namespace Terminal

/-- The terminal that output is laid out for where no other one is given. -/
instance standard : Terminal := ⟨Text.width⟩

/-- Blanks and dashes are no part of what is drawn as one sign: each takes one column, and the widths of the texts on
both sides of a blank add up. -/
structure AddsUp [Terminal] : Prop where
  blank (text rest : List Char) : width (text ++ ' ' :: rest) = width text + (width rest + 1)
  dashes (count : Nat) : width (List.replicate count '-') = count

end Terminal

end TableQuery
