import TableQuery.Yaml.Token.Basic

/-!
The tokens of a text.

The lexer keeps the indentations of the open blocks and, for every level of flow collections, the place where a key may
have begun. When a colon shows that it was one, the token for the key is put in at that place.
-/

namespace TableQuery.Yaml

/-- A place where a key may have begun. -/
structure PossibleKey where
  /-- The number of tokens before the place. -/
  tokens : Nat
  position : Position
  /-- Whether nothing but a key may stand there. -/
  required : Bool

structure Lexer where
  cursor : Cursor
  /-- The tokens read so far, the latest first. -/
  tokens : List Token := []
  /-- The columns of the open blocks, the innermost first. -/
  indents : List Nat := []
  /-- Where a key of the current collection may have begun. -/
  key : Option PossibleKey := none
  /-- The same for the collections around it; one for each open flow collection. -/
  outerKeys : List (Option PossibleKey) := []
  /-- Whether a key may begin at the cursor. -/
  keyAllowed : Bool := true

namespace Lexer

/-- Whether the cursor is inside of a flow collection. -/
def inFlow (l : Lexer) : Bool := !l.outerKeys.isEmpty

/-- The column of the innermost block. -/
def indent (l : Lexer) : Int := (l.indents.head?.map Int.ofNat).getD (-1)

def emit (l : Lexer) (token : Token) : Lexer := { l with tokens := token :: l.tokens }

/-- Puts a token in behind the first `n` tokens. -/
def emitAt (l : Lexer) (n : Nat) (token : Token) : Lexer :=
  let later := l.tokens.length - n
  { l with tokens := l.tokens.take later ++ token :: l.tokens.drop later }

/-- Passes an indicator of one character and emits its token. -/
def emitMark (l : Lexer) (token : Token) : Lexer := { l with cursor := l.cursor.next }.emit token

/-! ## Indentation -/

/-- Closes the blocks whose column is not reached. -/
def closeBlocks (column : Nat) : List Nat → List Token → List Nat × List Token
  | [], tokens => ([], tokens)
  | indent :: rest, tokens =>
    if column < indent then closeBlocks column rest (.blockEnd :: tokens) else (indent :: rest, tokens)

/-- Closes blocks where the text returns to a column; inside of a flow collection, columns do not matter. -/
def unroll (l : Lexer) (column : Nat) : Lexer :=
  if l.inFlow then l
  else
    let (indents, tokens) := closeBlocks column l.indents l.tokens
    { l with indents, tokens }

/-- Closes all blocks. -/
def unrollAll (l : Lexer) : Lexer :=
  if l.inFlow then l
  else { l with indents := [], tokens := List.replicate l.indents.length .blockEnd ++ l.tokens }

/-- Opens a block at a column, unless one is open there. Its first token goes behind the first `n` tokens. -/
def roll (l : Lexer) (column : Nat) (n : Nat) (token : Token) : Lexer :=
  if !l.inFlow && l.indent < column then { l with indents := column :: l.indents }.emitAt n token else l

/-! ## Keys -/

/-- Forgets where a key may have begun; fails where there has to be one. -/
def dropKey (l : Lexer) : Option Lexer := if l.key.any (·.required) then none else some { l with key := none }

/-- Notes that a key may begin at the cursor. -/
def saveKey (l : Lexer) : Option Lexer :=
  if l.keyAllowed then do
    let required := !l.inFlow && l.indent = l.cursor.column
    return { ← l.dropKey with key := some ⟨l.tokens.length, l.cursor.position, required⟩ }
  else some l

/-- Whether a key that began at a place would be over: keys are on one line and short. -/
def isOver (p : Position) (key : PossibleKey) : Bool :=
  key.position.line < p.line || key.position.index + 1024 < p.index

/-- Forgets the keys that would be over; fails if one of them is required. -/
def dropOverKeys (l : Lexer) : Option Lexer :=
  let ended := isOver l.cursor.position
  if (l.key :: l.outerKeys).any (·.any fun key => ended key && key.required) then none
  else
    some { l with
      key := l.key.filter (!ended ·)
      outerKeys := l.outerKeys.map (·.filter (!ended ·)) }

/-! ## Gaps between tokens -/

/-- Passes blanks, comments and breaks, given whether a key may begin. Tabs are blanks only where they are not
indentation. -/
def skipGap (flow allowed comment : Bool) (p : Position) : List Char → Bool × Cursor
  | [] => (allowed, ⟨p, []⟩)
  | c :: rest =>
    if isBreak c then skipGap flow (allowed || !flow) false (p.after c) rest
    else if comment || c = ' ' || (c = '\t' && (flow || !allowed)) || (c = '\ufeff' && p.column = 0) then
      skipGap flow allowed comment (p.after c) rest
    else if c = '#' then skipGap flow allowed true (p.after c) rest
    else (allowed, ⟨p, c :: rest⟩)

def toNextToken (l : Lexer) : Lexer :=
  let (keyAllowed, cursor) := skipGap l.inFlow l.keyAllowed false l.cursor.position l.cursor.rest
  { l with keyAllowed, cursor }

/-! ## Tokens -/

/-- A directive, or a mark between documents. Both close all blocks. -/
def atMargin (l : Lexer) (scan : Cursor → Option (Token × Cursor)) : Option Lexer := do
  let l ← l.unrollAll.dropKey
  let (token, cursor) ← scan l.cursor
  return { l with cursor, keyAllowed := false }.emit token

def flowStart (l : Lexer) (token : Token) : Option Lexer := do
  let l ← l.saveKey
  return { l with outerKeys := l.key :: l.outerKeys, key := none, keyAllowed := true }.emitMark token

def flowEnd (l : Lexer) (token : Token) : Option Lexer := do
  let l ← l.dropKey
  let l := match l.outerKeys with
    | [] => l
    | key :: outerKeys => { l with key, outerKeys }
  return { l with keyAllowed := false }.emitMark token

def flowEntry (l : Lexer) : Option Lexer := do
  return { ← l.dropKey with keyAllowed := true }.emitMark .flowEntry

/-- Opens a block for an entry or a key at the cursor, if that is where one may stand. -/
def rollHere (l : Lexer) (token : Token) : Option Lexer :=
  if l.inFlow then some l
  else if l.keyAllowed then some (l.roll l.cursor.column l.tokens.length token)
  else none

def blockEntry (l : Lexer) : Option Lexer := do
  let l ← l.rollHere .sequenceStart
  return { ← l.dropKey with keyAllowed := true }.emitMark .entry

def keyMark (l : Lexer) : Option Lexer := do
  let l ← l.rollHere .mappingStart
  let l ← l.dropKey
  return { l with keyAllowed := !l.inFlow }.emitMark .key

def valueMark (l : Lexer) : Option Lexer :=
  match l.key with
  | some key =>
    let l := (l.emitAt key.tokens .key).roll key.position.column key.tokens .mappingStart
    some ({ l with key := none, keyAllowed := false }.emitMark .value)
  | none => do
    let l ← l.rollHere .mappingStart
    return { l with keyAllowed := !l.inFlow }.emitMark .value

/-- An anchor, an alias, a tag or a scalar on one line, any of which may begin a key. -/
def inline (l : Lexer) (scan : Cursor → Option (Token × Cursor)) : Option Lexer := do
  let l ← l.saveKey
  let (token, cursor) ← scan l.cursor
  return { l with cursor, keyAllowed := false }.emit token

def plainScalar (l : Lexer) : Option Lexer := do
  let l ← l.saveKey
  let (text, broken, cursor) ← Scan.plain l.inFlow (l.indent + 1).toNat l.cursor
  return { l with cursor, keyAllowed := broken }.emit (.scalar true text)

def blockScalar (l : Lexer) (literal : Bool) : Option Lexer := do
  let l ← l.dropKey
  let (text, cursor) ← Scan.block literal l.indent l.cursor
  return { l with cursor, keyAllowed := true }.emit (.scalar false text)

/-- Whether a plain scalar may begin with a character, given the one after it. -/
def startsPlain (flow : Bool) (c : Char) (next : Option Char) : Bool :=
  if c = '-' then !next.any isBlank
  else if c = '?' || c = ':' then !flow && !isGap next
  else !(isGap (some c) || isIndicator c)

/-- Reads the token that begins with a character at the cursor. -/
def scanToken (l : Lexer) (c : Char) (next : Option Char) : Option Lexer :=
  let mark (token : Token) (cursor : Cursor) : Option (Token × Cursor) := some (token, cursor.advance 3)
  if c = '%' && l.cursor.column = 0 then l.atMargin Scan.directive
  else if l.cursor.isAtMargin '-' then l.atMargin (mark .documentStart)
  else if l.cursor.isAtMargin '.' then l.atMargin (mark .documentEnd)
  else if c = '[' then l.flowStart .flowSequenceStart
  else if c = '{' then l.flowStart .flowMappingStart
  else if c = ']' then l.flowEnd .flowSequenceEnd
  else if c = '}' then l.flowEnd .flowMappingEnd
  else if c = ',' then l.flowEntry
  else if c = '-' && isGap next then l.blockEntry
  else if c = '?' && (l.inFlow || isGap next) then l.keyMark
  else if c = ':' && (l.inFlow || isGap next) then l.valueMark
  else if c = '*' then l.inline fun cursor => (Scan.name cursor).map fun (name, behind) => (.alias name, behind)
  else if c = '&' then l.inline fun cursor => (Scan.name cursor).map fun (name, behind) => (.anchor name, behind)
  else if c = '!' then l.inline (Scan.tag l.inFlow)
  else if c = '|' && !l.inFlow then l.blockScalar true
  else if c = '>' && !l.inFlow then l.blockScalar false
  else if c = '\x27' || c = '"' then
    l.inline fun cursor => (Scan.quoted (c = '\x27') cursor).map fun (text, behind) => (.scalar false text, behind)
  else if startsPlain l.inFlow c next then l.plainScalar
  else none

/-- Reads tokens to the end of the text. Every token takes at least one character, which bounds their number. -/
def run : Nat → Lexer → Option (List Token)
  | 0, _ => none
  | fuel + 1, l => do
    let l ← l.toNextToken.dropOverKeys
    let l := l.unroll l.cursor.column
    match l.cursor.rest with
    | [] => return (← l.unrollAll.dropKey).tokens.reverse
    | c :: rest => run fuel (← l.scanToken c rest.head?)

end Lexer

/-- The tokens of a text. A mark of its encoding at the start is no part of a text. -/
def Token.ofText? (text : List Char) : Option (List Token) :=
  let text := match text with
    | '\ufeff' :: rest => rest
    | _ => text
  if text.all isAllowed then
    let text := normalizeBreaks text
    Lexer.run (text.length + 1) { cursor := ⟨{}, text⟩ }
  else none

end TableQuery.Yaml
