/-!
The kinds of characters that YAML tells apart.
-/

namespace TableQuery.Yaml

/-- Characters that end a line. -/
def isBreak (c : Char) : Bool := c = '\n' || c = '\r' || c = '\u0085' || c = '\u2028' || c = '\u2029'

/-- Characters that separate words on a line. -/
def isBlank (c : Char) : Bool := c = ' ' || c = '\t'

/-- Whether what comes next, a character or the end of the text, separates tokens. A zero counts as the end. -/
def isGap : Option Char → Bool
  | none => true
  | some c => isBlank c || isBreak c || c = '\x00'

/-- Characters that no plain scalar starts with. -/
def isIndicator (c : Char) : Bool :=
  ['#', ',', '[', ']', '{', '}', '&', '*', '!', '|', '>', '\x27', '"', '%', '@', '\x60'].contains c

/-- Characters that may stand in a document as they are. -/
def isPrintable (c : Char) : Bool :=
  c = '\n' || (' ' ≤ c && c ≤ '~') ||
    ('\u00A0' ≤ c && c != '\ufeff' && c != '\ufffe' && c != '\uffff')

/-- Characters that a document may hold at all. -/
def isAllowed (c : Char) : Bool :=
  c = '\t' || c = '\n' || c = '\r' || (' ' ≤ c && c ≤ '~') || c = '\u0085' ||
    ('\u00A0' ≤ c && c != '\ufffe' && c != '\uffff')

/-- Letters, digits and the two marks that names are made of. -/
def isNameChar (c : Char) : Bool := c.isAlphanum || c = '_' || c = '-'

/-- A text in which every line ends with a line feed, apart from the two separators of lines and paragraphs. -/
def normalizeBreaks : List Char → List Char
  | '\r' :: '\n' :: rest => '\n' :: normalizeBreaks rest
  | c :: rest => (if c = '\r' || c = '\u0085' then '\n' else c) :: normalizeBreaks rest
  | [] => []

end TableQuery.Yaml
