import TableQuery.Yaml.Character
import TableQuery.Yaml.Scalar

/-!
Styles of written texts.

A text is written plainly if it would be read back as that text; otherwise in single quotes, and in double quotes if it
holds characters that have to be escaped or breaks that single quotes would lose. A text with a line feed is written as
a literal block, line by line.
-/

namespace TableQuery.Yaml

inductive Style where
  | plain
  | single
  | double
  | literal
deriving DecidableEq

namespace Style

/-- Whether some character of a text satisfies `p` and the one after it `q`. -/
def hasPair (p q : Char → Bool) : List Char → Bool
  | c :: d :: rest => (p c && q d) || hasPair p q (d :: rest)
  | _ => false

def isSpace (c : Char) : Bool := c = ' '

/-- Whether the start of a text would be read as a mark of the block structure. -/
def startsAsMark (s : List Char) : Bool :=
  ['-', '-', '-'].isPrefixOf s || ['.', '.', '.'].isPrefixOf s ||
    match s with
    | [] => false
    | c :: rest => isIndicator c || ((c = '?' || c = ':' || c = '-') && isGap rest.head?)

/-- Whether a colon or a number sign after the first character would be read as a mark. -/
def hasInnerMark : List Char → Bool
  | c :: d :: rest => (d = ':' && isGap rest.head?) || (d = '#' && isGap (some c)) || hasInnerMark (d :: rest)
  | _ => false

/-- Whether a text has characters that have to be escaped. -/
def hasSpecial (s : List Char) : Bool := s.any (!isPrintable ·) || hasPair isSpace isBreak s

def startsOrEnds (p : Char → Bool) (s : List Char) : Bool := s.head?.any p || s.getLast?.any p

def allowsPlain (s : List Char) : Bool :=
  !(hasSpecial s || s.any isBreak || startsOrEnds isSpace s || startsAsMark s || hasInnerMark s)

def allowsSingle (s : List Char) : Bool := !(hasSpecial s || hasPair isBreak isSpace s)

def allowsLiteral (s : List Char) : Bool := !(hasSpecial s || s.getLast?.any isSpace)

/-- Whether a plain scalar of this spelling would not be the text, or might be taken for a number. -/
def isAmbiguous (s : List Char) : Bool := Scalar.ofPlain s != .text s || Scalar.hasLeadingZero s

/-- The style that a text is written in. -/
def ofText (s : List Char) : Style :=
  if s.contains '\n' then if allowsLiteral s then .literal else .double
  else if !isAmbiguous s && allowsPlain s then .plain
  else if allowsSingle s then .single
  else .double

end Style

/-! ## Texts in the styles -/

/-- The escape of a character by its code point, or by a letter of its own. -/
def escape (c : Char) : List Char :=
  let digits (width : Nat) : List Char :=
    let hex := (Nat.toDigits 16 c.toNat).map Char.toUpper
    List.replicate (width - hex.length) '0' ++ hex
  '\\' ::
    (if c = '\x00' then ['0']
    else if c = '\x07' then ['a']
    else if c = '\x08' then ['b']
    else if c = '\t' then ['t']
    else if c = '\n' then ['n']
    else if c = '\x0b' then ['v']
    else if c = '\x0c' then ['f']
    else if c = '\r' then ['r']
    else if c = '\x1b' then ['e']
    else if c = '"' then ['"']
    else if c = '\\' then ['\\']
    else if c = '\u0085' then ['N']
    else if c = '\u2028' then ['L']
    else if c = '\u2029' then ['P']
    else if c.toNat ≤ 0xFF then 'x' :: digits 2
    else if c.toNat ≤ 0xFFFF then 'u' :: digits 4
    else 'U' :: digits 8)

/-- A text in double quotes. -/
def doubleQuoted (s : List Char) : List Char :=
  '"' :: (s.flatMap (fun c => if !isPrintable c || isBreak c || c = '"' || c = '\\' then escape c else [c]) ++ ['"'])

/-- A text over several lines, each of them indented; `fresh` tells that a line has just begun. -/
def indentLines (indent : Nat) (encode : Char → List Char) (fresh : Bool) : List Char → List Char
  | [] => if fresh then List.replicate indent ' ' else []
  | c :: rest =>
    if isBreak c then c :: indentLines indent encode true rest
    else (if fresh then List.replicate indent ' ' else []) ++ encode c ++ indentLines indent encode false rest

/-- A text in single quotes. -/
def singleQuoted (indent : Nat) (s : List Char) : List Char :=
  '\x27' :: (indentLines indent (fun c => if c = '\x27' then [c, c] else [c]) false s ++ ['\x27'])

/-- The lines of a literal block. A block that ends with a break does not begin another line. -/
def literalLines (indent : Nat) (fresh : Bool) : List Char → List Char
  | [] => []
  | c :: rest =>
    if isBreak c then c :: literalLines indent true rest
    else (if fresh then List.replicate indent ' ' else []) ++ c :: literalLines indent false rest

/-- How many of the breaks at the end of a literal block belong to the text. -/
def chomping (s : List Char) : List Char :=
  match s.reverse with
  | c :: rest => if !isBreak c then ['-'] else if rest.head?.all isBreak then ['+'] else []
  | [] => ['-']

/-- A text as a literal block. A block that starts with a blank or a break has its indentation announced. -/
def literalBlock (indent : Nat) (s : List Char) : List Char :=
  '|' :: ((if s.head?.any fun c => c = ' ' || isBreak c then ['2'] else []) ++ chomping s ++ '\n' ::
    literalLines indent true s)

/-- A text in its style. -/
def writeText (indent : Nat) (s : List Char) : List Char :=
  match Style.ofText s with
  | .plain => s
  | .single => singleQuoted indent s
  | .double => doubleQuoted s
  | .literal => literalBlock indent s

end TableQuery.Yaml
