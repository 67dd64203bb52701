import TableQuery.Text.Ranges
import TableQuery.Text.LowerCase.Table

/-!
Lower-casing of whole texts.

Each character is mapped on its own, with two exceptions: the dotted capital I becomes two characters, and a capital
sigma that ends a word becomes the final form of the small letter.
-/

namespace TableQuery.Text

namespace LowerCase

/-- The lower-case form of one character, wherever it stands. -/
def ofChar (c : Char) : List Char :=
  if c.toNat < 128 then [c.toLower]
  else if c = '\u0130' then ['i', '\u0307']
  else
    match runs.find? fun (first, last, step, _) =>
        first ≤ c.toNat && c.toNat ≤ last && (c.toNat - first) % step == 0 with
    | some (_, _, _, distance) => [Char.ofNat (c.toNat + distance).toNat]
    | none => [c]

/-- Whether the first character that counts is a letter with case. -/
def startsWithCased (text : List Char) : Bool :=
  match text.dropWhile (inRanges ignorableRanges) with
  | [] => false
  | c :: _ => inRanges casedRanges c

/-- The small sigma for a capital one: the final form after a letter when no letter follows. -/
def sigma (before after : List Char) : Char :=
  if startsWithCased before && !startsWithCased after then '\u03C2' else '\u03C3'

/-- Lower-cases a text that stands after the characters `before`, which are given backwards. -/
def after (before : List Char) : List Char → List Char
  | [] => []
  | c :: rest => (if c = '\u03A3' then [sigma before rest] else ofChar c) ++ after (c :: before) rest

end LowerCase

/-- A text in lower case. -/
def lowerCase (text : List Char) : List Char := LowerCase.after [] text

/-- The ASCII letters of a text in lower case, all else as it is. -/
def asciiLower (text : List Char) : List Char := text.map Char.toLower

/-- Equality up to the case of ASCII letters. -/
def eqIgnoringCase (a b : List Char) : Bool := asciiLower a == asciiLower b

end TableQuery.Text
