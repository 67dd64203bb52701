import TableQuery.Yaml.Character

/-!
Positions in a text, and the gaps between words.

A gap is a run of blanks and breaks inside a scalar. A gap on one line is kept; a gap over several lines is folded: its
first break becomes a blank, or vanishes if further breaks follow.
-/

namespace TableQuery.Yaml

/-- A position: the number of characters before it, its line, and its column. -/
structure Position where
  index : Nat := 0
  line : Nat := 0
  column : Nat := 0

namespace Position

/-- The position after a character. -/
def after (p : Position) (c : Char) : Position :=
  if isBreak c then ⟨p.index + 1, p.line + 1, 0⟩ else ⟨p.index + 1, p.line, p.column + 1⟩

end Position

/-- A position with the text that follows it. -/
structure Cursor where
  position : Position
  rest : List Char

namespace Cursor

def column (c : Cursor) : Nat := c.position.column

def next (c : Cursor) : Cursor :=
  match c.rest with
  | [] => c
  | x :: rest => ⟨c.position.after x, rest⟩

def advance : Nat → Cursor → Cursor
  | 0, c => c
  | n + 1, c => advance n c.next

/-- Passes the characters that satisfy a test, up to the first that does not. -/
def passWhile (p : Char → Bool) (c : Cursor) : Cursor := c.advance (c.rest.takeWhile p).length

/-- Whether a character stands at the cursor. -/
def isAt (c : Cursor) (x : Char) : Bool := c.rest.head? = some x

/-- Whether the text at the cursor starts with three marks that stand alone on the left margin. -/
def isAtMargin (c : Cursor) (mark : Char) : Bool :=
  c.column = 0 && [mark, mark, mark].isPrefixOf c.rest && isGap (c.rest.drop 3).head?

/-- Whether the cursor is at the start or the end of a document. -/
def isAtDocumentMark (c : Cursor) : Bool := c.isAtMargin '-' || c.isAtMargin '.'

/-- Passes what may stand at the end of a line: blanks, a comment, and the break. Fails at anything else. -/
def endLine? (c : Cursor) : Option Cursor :=
  let c := c.passWhile isBlank
  let c := if c.isAt '#' then c.passWhile (!isBreak ·) else c
  match c.rest with
  | [] => some c
  | x :: _ => if isBreak x then some c.next else none

end Cursor

/-- A gap between two words. -/
structure Gap where
  /-- The blanks before the first break. -/
  blanks : List Char := []
  /-- Whether a line ends in the gap. -/
  broken : Bool := false
  first : Option Char := none
  /-- The breaks after the first one. -/
  others : List Char := []

namespace Gap

/-- What a gap stands for. -/
def fold (g : Gap) : List Char :=
  if g.broken then
    match g.first with
    | some '\n' => if g.others.isEmpty then [' '] else g.others
    | some c => c :: g.others
    | none => g.others
  else g.blanks

def addBreak (g : Gap) (c : Char) : Gap :=
  if g.broken then { g with others := g.others ++ [c] } else { g with broken := true, first := some c }

def addBlank (g : Gap) (c : Char) : Gap := if g.broken then g else { g with blanks := g.blanks ++ [c] }

/-- Reads a gap to its end. After a break, a tab must not stand before a given column. -/
def scan (indent : Nat) (g : Gap) (p : Position) : List Char → Option (Gap × Cursor)
  | [] => some (g, ⟨p, []⟩)
  | c :: rest =>
    if isBlank c then
      if g.broken && c = '\t' && p.column < indent then none else scan indent (g.addBlank c) (p.after c) rest
    else if isBreak c then scan indent (g.addBreak c) (p.after c) rest
    else some (g, ⟨p, c :: rest⟩)

end Gap

end TableQuery.Yaml
