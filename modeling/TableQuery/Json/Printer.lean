import TableQuery.Json.Basic

/-!
Printing of JSON documents.

`compact` writes a document without any blank; `pretty` puts every item and member on a line of its own, indented by two
blanks for each level. Empty arrays and objects stay on one line in both.
-/

namespace TableQuery.Json

/-- The escape of a character inside a string. -/
def escape (c : Char) : List Char :=
  if c = '"' then ['\\', '"']
  else if c = '\\' then ['\\', '\\']
  else if c = '\n' then ['\\', 'n']
  else if c = '\r' then ['\\', 'r']
  else if c = '\t' then ['\\', 't']
  else if c = '\x08' then ['\\', 'b']
  else if c = '\x0c' then ['\\', 'f']
  else if c.toNat < 32 then
    ['\\', 'u', '0', '0', Nat.digitChar (c.toNat / 16), Nat.digitChar (c.toNat % 16)]
  else [c]

def quote (s : String) : List Char := '"' :: (s.toList.flatMap escape ++ ['"'])

mutual

/-- A document without blanks. -/
def compact : Json → List Char
  | .null => ['n', 'u', 'l', 'l']
  | .bool true => ['t', 'r', 'u', 'e']
  | .bool false => ['f', 'a', 'l', 's', 'e']
  | .numeral n => n.render
  | .string s => quote s
  | .array items => '[' :: compactItems true items
  | .object members => '{' :: compactMembers true members

/-- The items of an array from one on, with the closing bracket; `first` tells that no comma is due. -/
def compactItems (first : Bool) : List Json → List Char
  | [] => [']']
  | item :: rest => (if first then [] else [',']) ++ compact item ++ compactItems false rest

/-- The members of an object from one on, with the closing brace. -/
def compactMembers (first : Bool) : List (String × Json) → List Char
  | [] => ['}']
  | (name, value) :: rest =>
    (if first then [] else [',']) ++ quote name ++ ':' :: compact value ++ compactMembers false rest

end

/-- The end of a line and the blanks before the next one, at a level of nesting. -/
def lineBreak (level : Nat) : List Char := '\n' :: List.replicate (2 * level) ' '

mutual

/-- A document over several lines, at a level of nesting. -/
def prettyAt (level : Nat) : Json → List Char
  | .array items => '[' :: prettyItems level true items
  | .object members => '{' :: prettyMembers level true members
  | .null => ['n', 'u', 'l', 'l']
  | .bool true => ['t', 'r', 'u', 'e']
  | .bool false => ['f', 'a', 'l', 's', 'e']
  | .numeral n => n.render
  | .string s => quote s

/-- The items of an array at a level, from one on, with the closing bracket. -/
def prettyItems (level : Nat) (first : Bool) : List Json → List Char
  | [] => (if first then [] else lineBreak level) ++ [']']
  | item :: rest =>
    (if first then [] else [',']) ++ lineBreak (level + 1) ++ prettyAt (level + 1) item ++ prettyItems level false rest

/-- The members of an object at a level, from one on, with the closing brace. -/
def prettyMembers (level : Nat) (first : Bool) : List (String × Json) → List Char
  | [] => (if first then [] else lineBreak level) ++ ['}']
  | (name, value) :: rest =>
    (if first then [] else [',']) ++ lineBreak (level + 1) ++ quote name ++ ':' :: ' ' :: prettyAt (level + 1) value ++
      prettyMembers level false rest

end

/-- A document over several lines. -/
def pretty (j : Json) : List Char := prettyAt 0 j

end TableQuery.Json
