import TableQuery.Yaml.Token.Scalar

/-!
Tokens of YAML.

Tokens make the structure of a document explicit: indentation becomes the start and end of blocks, and the key of an
entry is announced even where the text shows it only by the colon behind it.
-/

namespace TableQuery.Yaml

inductive Token where
  | version (major minor : Nat)
  /-- Declares what a handle of tags stands for. -/
  | tagHandle (handle base : List Char)
  | documentStart
  | documentEnd
  | sequenceStart
  | mappingStart
  | blockEnd
  | flowSequenceStart
  | flowSequenceEnd
  | flowMappingStart
  | flowMappingEnd
  | entry
  | flowEntry
  | key
  | value
  | alias (name : List Char)
  | anchor (name : List Char)
  | tag (handle suffix : List Char)
  | scalar (isPlain : Bool) (text : List Char)
deriving DecidableEq

namespace Scan

/-! ## Anchors and aliases -/

/-- A name behind its indicator. -/
def name (c : Cursor) : Option (List Char × Cursor) :=
  let name := c.next.rest.takeWhile isNameChar
  let c := c.next.passWhile isNameChar
  let ended := isGap c.rest.head? || c.rest.head?.any (['?', ':', ',', ']', '}', '%', '@', '\x60'].contains ·)
  if name.isEmpty || !ended then none else some (name, c)

/-! ## Tags -/

/-- Characters of a tag; three of them only between angle brackets. -/
def isTagChar (verbatim : Bool) (c : Char) : Bool :=
  isNameChar c || [';', '/', '?', ':', '@', '&', '=', '+', '$', '.', '%', '!', '~', '*', '\x27', '(', ')'].contains c ||
    (verbatim && [',', '[', ']'].contains c)

/-- How many octets follow the first octet of a character; nothing if no character starts so. -/
def octetsAfter? (octet : Nat) : Option Nat :=
  if octet < 0x80 then some 0
  else if octet / 0x20 = 6 then some 1
  else if octet / 0x10 = 14 then some 2
  else if octet / 0x08 = 30 then some 3
  else none

/-- Replaces the escapes of a tag by their octets. While octets of a character are missing, escapes must follow. -/
def unescapeTag (missing : Nat) : List Char → Option (List Char)
  | '%' :: a :: b :: rest => do
    let octet := 16 * (← Json.Draft.hexValue? a) + (← Json.Draft.hexValue? b)
    let missing ←
      if missing = 0 then octetsAfter? octet
      else if octet / 0x40 = 2 then some (missing - 1)
      else none
    return Char.ofNat octet :: (← unescapeTag missing rest)
  | c :: rest => if c = '%' || missing != 0 then none else (unescapeTag 0 rest).map (c :: ·)
  | [] => if missing = 0 then some [] else none

/-- The characters of a tag at a cursor. -/
def tagChars (verbatim : Bool) (c : Cursor) : Option (List Char × Cursor) := do
  return (← unescapeTag 0 (c.rest.takeWhile (isTagChar verbatim)), c.passWhile (isTagChar verbatim))

/-- A handle: an exclamation mark, and perhaps a name with a second one. Without the second mark, the name is taken
for the start of a tag. -/
def tagHandle (c : Cursor) : Option (List Char × Cursor) :=
  if !c.isAt '!' then none
  else
    let name := c.next.rest.takeWhile isNameChar
    let c := c.next.passWhile isNameChar
    if c.isAt '!' then some ('!' :: (name ++ ['!']), c.next) else some ('!' :: name, c)

/-- A tag in one of its forms: verbatim, with a handle, or local. -/
def tag (flow : Bool) (c : Cursor) : Option (Token × Cursor) := do
  let (token, c) ←
    if c.next.isAt '<' then do
      let (suffix, c) ← tagChars true (c.advance 2)
      if suffix.isEmpty || !c.isAt '>' then none
      pure (Token.tag [] suffix, c.next)
    else do
      let (handle, c) ← tagHandle c
      let (suffix, c) ← tagChars false c
      if 1 < handle.length && handle.getLast? = some '!' then
        if suffix.isEmpty then none
        pure (Token.tag handle suffix, c)
      else
        let suffix := handle.drop 1 ++ suffix
        pure (if suffix.isEmpty then Token.tag [] ['!'] else Token.tag ['!'] suffix, c)
  if isGap c.rest.head? || (flow && c.isAt ',') then return (token, c) else none

/-! ## Directives -/

/-- A number of at most nine digits. -/
def versionNumber (c : Cursor) : Option (Nat × Cursor) :=
  let digits := c.rest.takeWhile Decimal.isDigit
  if digits.isEmpty || 9 < digits.length then none
  else some (Decimal.ofDigits digits, c.passWhile Decimal.isDigit)

def versionDirective (c : Cursor) : Option (Token × Cursor) := do
  let (major, c) ← versionNumber (c.passWhile isBlank)
  if !c.isAt '.' then none
  let (minor, c) ← versionNumber c.next
  return (.version major minor, c)

def tagDirective (c : Cursor) : Option (Token × Cursor) := do
  let (handle, c) ← tagHandle (c.passWhile isBlank)
  if handle != ['!'] && handle.getLast? != some '!' then none
  if !c.rest.head?.any isBlank then none
  let (base, c) ← tagChars true (c.passWhile isBlank)
  if base.isEmpty || !isGap c.rest.head? then none
  return (.tagHandle handle base, c)

/-- A directive with the end of its line. -/
def directive (c : Cursor) : Option (Token × Cursor) := do
  let name := c.next.rest.takeWhile isNameChar
  let c := c.next.passWhile isNameChar
  if !isGap c.rest.head? then none
  let (token, c) ←
    if name = ['Y', 'A', 'M', 'L'] then versionDirective c
    else if name = ['T', 'A', 'G'] then tagDirective c
    else none
  return (token, ← c.endLine?)

end Scan

end TableQuery.Yaml
