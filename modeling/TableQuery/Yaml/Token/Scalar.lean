import TableQuery.Yaml.Cursor
import TableQuery.Json.Draft

/-!
Scanning of scalars.

Plain and quoted scalars are words with gaps between them; a block scalar is a run of lines with a common indentation.
Every scan starts at the first character of a scalar and returns its text with the cursor behind it, or nothing if the
text is no scalar.
-/

namespace TableQuery.Yaml.Scan

/-! ## Plain scalars -/

/-- Whether a character ends a plain word, given the character after it. -/
def endsPlain (flow : Bool) (c : Char) (next : Option Char) : Bool :=
  isBlank c || isBreak c || (c = ':' && isGap next) || (flow && [',', '[', ']', '{', '}'].contains c)

/-- Whether a colon stands where it is neither part of a plain word nor its end. -/
def isStrayColon (flow : Bool) (c : Char) (next : Option Char) : Bool :=
  flow && c = ':' && next.any fun d => [',', '?', '[', ']', '{', '}'].contains d

/-- A plain word, with the cursor behind it. -/
def plainWord (flow : Bool) (p : Position) : List Char → Option (List Char × Cursor)
  | [] => some ([], ⟨p, []⟩)
  | c :: rest =>
    if isStrayColon flow c rest.head? then none
    else if endsPlain flow c rest.head? then some ([], ⟨p, c :: rest⟩)
    else (plainWord flow (p.after c) rest).map fun (word, cursor) => (c :: word, cursor)

/-- The words of a plain scalar from a cursor on, each joined to the text before it by the gap between them. The flag
tells whether the scalar ends in a gap with a break. -/
def plainWords (flow : Bool) (indent : Nat) : Nat → List Char → Gap → Cursor → Option (List Char × Bool × Cursor)
  | 0, _, _, _ => none
  | fuel + 1, text, gap, cursor =>
    if cursor.isAtDocumentMark || cursor.isAt '#' then some (text, gap.broken, cursor)
    else do
      let (word, behind) ← plainWord flow cursor.position cursor.rest
      if word.isEmpty then return (text, gap.broken, behind)
      let text := text ++ gap.fold ++ word
      if !isGap behind.rest.head? || behind.rest.isEmpty then return (text, false, behind)
      let (gap, behind) ← Gap.scan indent {} behind.position behind.rest
      if !flow && behind.column < indent then return (text, gap.broken, behind)
      plainWords flow indent fuel text gap behind

/-- A plain scalar; text on further lines belongs to it as long as it is indented. -/
def plain (flow : Bool) (indent : Nat) (cursor : Cursor) : Option (List Char × Bool × Cursor) :=
  plainWords flow indent (cursor.rest.length + 1) [] {} cursor

/-! ## Quoted scalars -/

/-- The character of a one-letter escape. -/
def escape? (c : Char) : Option Char :=
  match c with
  | '0' => some '\x00'
  | 'a' => some '\x07'
  | 'b' => some '\x08'
  | 't' | '\t' => some '\t'
  | 'n' => some '\n'
  | 'v' => some '\x0b'
  | 'f' => some '\x0c'
  | 'r' => some '\r'
  | 'e' => some '\x1b'
  | ' ' => some ' '
  | '"' => some '"'
  | '/' => some '/'
  | '\\' => some '\\'
  | 'N' => some '\u0085'
  | '_' => some '\u00A0'
  | 'L' => some '\u2028'
  | 'P' => some '\u2029'
  | _ => none

/-- The number of hexadecimal digits after an escape letter that announces them. -/
def escapeDigits? (c : Char) : Option Nat :=
  match c with
  | 'x' => some 2
  | 'u' => some 4
  | 'U' => some 8
  | _ => none

/-- The character that hexadecimal digits stand for. -/
def charOfHex? (digits : List Char) : Option Char := do
  let n ← digits.foldlM (fun n c => (Json.Draft.hexValue? c).map (16 * n + ·)) 0
  if n.isValidChar then some (Char.ofNat n) else none

/-- A word between quotes, with the cursor behind it; the flag tells that an escaped break ends it. -/
def quotedWord (single : Bool) : Nat → Cursor → Option (List Char × Bool × Cursor)
  | 0, _ => none
  | fuel + 1, cursor =>
    let append (c : Char) (cursor : Cursor) : Option (List Char × Bool × Cursor) := do
      let (word, escaped, behind) ← quotedWord single fuel cursor
      return (c :: word, escaped, behind)
    match cursor.rest with
    | [] => some ([], false, cursor)
    | c :: rest =>
      if isBlank c || isBreak c then some ([], false, cursor)
      else if single then
        if c != '\x27' then append c cursor.next
        else if rest.head? = some '\x27' then append '\x27' (cursor.advance 2)
        else some ([], false, cursor)
      else if c = '"' then some ([], false, cursor)
      else if c != '\\' then append c cursor.next
      else
        match rest with
        | [] => none
        | letter :: tail =>
          if isBreak letter then some ([], true, cursor.advance 2)
          else
            match escapeDigits? letter with
            | some n => do
              if tail.length < n then none
              append (← charOfHex? (tail.take n)) (cursor.advance (n + 2))
            | none => do append (← escape? letter) (cursor.advance 2)

/-- The words of a quoted scalar from a cursor on, up to the closing quote. -/
def quotedWords (single : Bool) : Nat → List Char → Cursor → Option (List Char × Cursor)
  | 0, _, _ => none
  | fuel + 1, text, cursor =>
    if cursor.isAtDocumentMark || cursor.rest.isEmpty then none
    else do
      let (word, escaped, behind) ← quotedWord single (cursor.rest.length + 1) cursor
      let text := text ++ word
      if behind.isAt (if single then '\x27' else '"') then return (text, behind.next)
      let (gap, behind) ← Gap.scan 0 { broken := escaped } behind.position behind.rest
      quotedWords single fuel (text ++ gap.fold) behind

/-- A quoted scalar, from its opening quote on. -/
def quoted (single : Bool) (cursor : Cursor) : Option (List Char × Cursor) :=
  quotedWords single (cursor.rest.length + 1) [] cursor.next

/-! ## Block scalars -/

/-- How many of the breaks at the end of a block belong to the text. -/
inductive Chomping where
  | strip
  | clip
  | keep
deriving DecidableEq

/-- The chomping that a character asks for. -/
def chomping? (c : Cursor) : Option Chomping :=
  if c.isAt '+' then some .keep else if c.isAt '-' then some .strip else none

/-- The indentation, from one to nine, that a character announces; fails at a zero. -/
def increment? (c : Cursor) : Option (Option Nat) :=
  match c.rest with
  | d :: _ => if d = '0' then none else some (if d.isDigit then some (d.toNat - '0'.toNat) else none)
  | [] => some none

/-- The header of a block scalar: its chomping and the announced indentation, in any order. -/
def blockHeader (c : Cursor) : Option (Chomping × Option Nat × Cursor) :=
  match chomping? c with
  | some chomping => do
    let c := c.next
    match ← increment? c with
    | some n => return (chomping, some n, c.next)
    | none => return (chomping, none, c)
  | none => do
    match ← increment? c with
    | some n =>
      let c := c.next
      match chomping? c with
      | some chomping => return (chomping, some n, c.next)
      | none => return (.clip, some n, c)
    | none => return (.clip, none, c)

/-- Passes indentation and empty lines, and collects the breaks. Without a known indentation, all blanks are
indentation, and the widest of the lines is noted. -/
def blockBreaks (indent : Option Nat) (widest : Nat) (breaks : List Char) (p : Position) :
    List Char → Option (Nat × List Char × Cursor)
  | [] => some (max widest p.column, breaks, ⟨p, []⟩)
  | c :: rest =>
    let inside := indent.all (p.column < ·)
    if inside && c = ' ' then blockBreaks indent widest breaks (p.after c) rest
    else if inside && c = '\t' then none
    else if isBreak c then blockBreaks indent (max widest p.column) (breaks ++ [c]) (p.after c) rest
    else some (max widest p.column, breaks, ⟨p, c :: rest⟩)

/-- A block scalar while its lines are read. -/
structure Block where
  text : List Char := []
  /-- The break of the last line. -/
  lineBreak : List Char := []
  /-- The breaks of the empty lines after it. -/
  breaks : List Char
  /-- Whether the last line starts with a blank. -/
  startsBlank : Bool := false

/-- What joins the last line to one that starts with a blank or not. Breaks between lines without such a start are
folded, unless the block is literal. -/
def Block.joint (b : Block) (literal startsBlank : Bool) : List Char :=
  if !literal && b.lineBreak = ['\n'] && !b.startsBlank && !startsBlank then
    if b.breaks.isEmpty then [' '] else b.breaks
  else b.lineBreak ++ b.breaks

/-- Reads the lines of a block that have its indentation. -/
def blockLines (literal : Bool) (indent : Nat) : Nat → Block → Cursor → Option (Block × Cursor)
  | 0, _, _ => none
  | fuel + 1, b, cursor =>
    if cursor.column = indent && !cursor.rest.isEmpty then do
      let startsBlank := cursor.rest.head?.any isBlank
      let line := cursor.rest.takeWhile (!isBreak ·)
      let behind := cursor.advance line.length
      let (_, breaks, next) ← blockBreaks (some indent) 0 [] behind.next.position behind.next.rest
      blockLines literal indent fuel
        { text := b.text ++ b.joint literal startsBlank ++ line, lineBreak := behind.rest.take 1, breaks, startsBlank }
        next
    else some (b, cursor)

/-- A block scalar, from its indicator on, inside of structures with a given indentation. -/
def block (literal : Bool) (outer : Int) (cursor : Cursor) : Option (List Char × Cursor) := do
  let (chomping, increment, c) ← blockHeader cursor.next
  let c ← c.endLine?
  let announced := increment.map fun n => (max outer 0).toNat + n
  let (widest, breaks, c) ← blockBreaks announced 0 [] c.position c.rest
  let indent := announced.getD (max widest (max (outer + 1).toNat 1))
  let (b, c) ← blockLines literal indent (c.rest.length + 1) { breaks } c
  let tail := match chomping with
    | .strip => []
    | .clip => b.lineBreak
    | .keep => b.lineBreak ++ b.breaks
  return (b.text ++ tail, c)

end TableQuery.Yaml.Scan
