import TableQuery.Json.Numeral

/-!
Drafts of JSON documents.

A draft is what a text holds, as far as the text can be read. Reading a text into a draft never fails: where the text
stops being JSON, the draft is cut and the fault is noted at the cut. Whoever uses a draft walks it in the order of the
text, so of several faults it meets the one that comes first.

Some parts of a text are only passed over, because nothing asks for their value. Passing over is more lenient than
reading: it does not pair the halves of escaped characters and does not bound the size of numbers. So a draft keeps the
faults of reading apart from those of passing over.
-/

namespace TableQuery.Json

/-- Why a text is not JSON. -/
inductive Fault where
  /-- The text has something that cannot stand where it stands. -/
  | malformed
  /-- The text ends where more of it is due. -/
  | truncated
deriving DecidableEq

/-- How an array or object ends: by its bracket, or by a fault. -/
inductive Ending where
  | closed
  | cut (reading passing : Fault)
deriving DecidableEq

/-- What a text holds, as far as it can be read. -/
inductive Draft where
  | null
  | bool (b : Bool)
  | numeral (n : Except Fault Numeral)
  | string (s : Except Fault String)
  | array (items : List Draft) (ending : Ending)
  | object (members : List (Except Fault String × Draft)) (ending : Ending)
  /-- Where a text is cut, with the fault that reading meets and the one that passing over meets. -/
  | broken (reading passing : Fault)

namespace Draft

/-- A draft with the text after it; without such a text if the draft is cut. -/
structure Scanned (α : Type) where
  value : α
  rest : Option (List Char)

/-- The blank characters between the tokens of a text. -/
def isSpace (c : Char) : Bool := c = ' ' || c = '\n' || c = '\t' || c = '\r'

def skipSpace (text : List Char) : List Char := text.dropWhile isSpace

/-- A cut with one fault, however the text is used. -/
def cutAt (fault : Fault) : Scanned Draft := ⟨.broken fault fault, none⟩

/-! Words and numbers. -/

/-- Reads the rest of a word whose first letter is read. -/
def scanWord (value : Draft) : List Char → List Char → Scanned Draft
  | [], text => ⟨value, some text⟩
  | _ :: _, [] => cutAt .truncated
  | letter :: letters, c :: text => if c = letter then scanWord value letters text else cutAt .malformed

/-- A cut inside a number: passing over takes the end of the text for a character that is no digit. -/
def cutInNumber (text : List Char) : Scanned Draft :=
  ⟨.broken (if text.isEmpty then .truncated else .malformed) .malformed, none⟩

/-- Reads the exponent of a number, if there is one, and finishes the number. -/
def scanExponent (negative : Bool) (whole : List Char) (fraction : Option (List Char)) (text : List Char) :
    Scanned Draft :=
  let finish (exponent : Option (Bool × List Char)) (rest : List Char) : Scanned Draft :=
    let value := match Numeral.ofLexeme? ⟨negative, whole, fraction, exponent⟩ with
      | some n => .ok n
      | none => .error .malformed
    ⟨.numeral value, some rest⟩
  match text with
  | mark :: tail =>
    if mark = 'e' || mark = 'E' then
      let (down, afterSign) := Decimal.scanSign tail
      let digits := afterSign.takeWhile Decimal.isDigit
      if digits.isEmpty then cutInNumber afterSign
      else finish (some (down, digits)) (afterSign.dropWhile Decimal.isDigit)
    else finish none text
  | [] => finish none text

/-- Reads a number after its sign. A leading zero stands alone. -/
def scanNumber (negative : Bool) (text : List Char) : Scanned Draft :=
  let digits := text.takeWhile Decimal.isDigit
  let rest := text.dropWhile Decimal.isDigit
  match digits with
  | [] => cutInNumber text
  | '0' :: _ :: _ => cutAt .malformed
  | _ =>
    match rest with
    | '.' :: tail =>
      let fraction := tail.takeWhile Decimal.isDigit
      let afterFraction := tail.dropWhile Decimal.isDigit
      if fraction.isEmpty then cutInNumber afterFraction
      else scanExponent negative digits (some fraction) afterFraction
    | _ => scanExponent negative digits none rest

/-! Strings. -/

def hexValue? (c : Char) : Option Nat :=
  if '0' ≤ c && c ≤ '9' then some (c.toNat - '0'.toNat)
  else if 'a' ≤ c && c ≤ 'f' then some (c.toNat - 'a'.toNat + 10)
  else if 'A' ≤ c && c ≤ 'F' then some (c.toNat - 'A'.toNat + 10)
  else none

/-- The sixteen-bit unit that four hexadecimal digits stand for. -/
def unit? (a b c d : Char) : Option Nat := do
  return (((← hexValue? a) * 16 + (← hexValue? b)) * 16 + (← hexValue? c)) * 16 + (← hexValue? d)

def isLeading (unit : Nat) : Bool := 0xD800 ≤ unit && unit < 0xDC00

def isTrailing (unit : Nat) : Bool := 0xDC00 ≤ unit && unit < 0xE000

/-- The character that a leading and a trailing unit stand for together. -/
def joinUnits (leading trailing : Nat) : Char :=
  Char.ofNat ((leading - 0xD800) * 0x400 + (trailing - 0xDC00) + 0x10000)

/-- The character of an escape of one letter. -/
def shortEscape? (c : Char) : Option Char :=
  if c = '"' || c = '\\' || c = '/' then some c
  else if c = 'b' then some '\x08'
  else if c = 'f' then some '\x0c'
  else if c = 'n' then some '\n'
  else if c = 'r' then some '\r'
  else if c = 't' then some '\t'
  else none

/-- What is read of a string: its characters, and the text after its closing quote. -/
structure StringScan where
  content : Except Fault (List Char)
  rest : Except Fault (List Char)

namespace StringScan

def stop (fault : Fault) : StringScan := ⟨.error fault, .error fault⟩

def prepend (c : Char) (s : StringScan) : StringScan := { s with content := s.content.map (c :: ·) }

/-- A string that can be passed over but not read. -/
def unreadable (s : StringScan) : StringScan := { s with content := .error .malformed }

/-- What is read after a leading unit is not readable, for the unit's other half is missing. -/
def after (leading : Option Nat) (s : StringScan) : StringScan := if leading.isSome then s.unreadable else s

end StringScan

/-- The fault of a numeric escape without four hexadecimal digits: the text is too short for one if fewer than four
bytes of it are left. -/
def faultOfEscape (text : List Char) : Fault :=
  if (String.ofList text).utf8ByteSize < 4 then .truncated else .malformed

/-- Reads what is left of a string after its opening quote. If the character before was a leading unit, it is given, and
has to be joined to a trailing unit that follows at once. -/
def scanString (leading : Option Nat) : List Char → StringScan
  | [] => .stop .truncated
  | '"' :: rest => (StringScan.mk (.ok []) (.ok rest)).after leading
  | '\\' :: 'u' :: a :: b :: c :: d :: rest =>
    match unit? a b c d, leading with
    | none, _ => .stop (faultOfEscape [a, b, c, d])
    | some unit, some before =>
      if isTrailing unit then (scanString none rest).prepend (joinUnits before unit)
      else (scanString (if isLeading unit then some unit else none) rest).unreadable
    | some unit, none =>
      if isTrailing unit then (scanString none rest).unreadable
      else if isLeading unit then scanString (some unit) rest
      else (scanString none rest).prepend (Char.ofNat unit)
  | '\\' :: 'u' :: short => .stop (faultOfEscape short)
  | ['\\'] => .stop .truncated
  | '\\' :: c :: rest =>
    match shortEscape? c with
    | some plain => ((scanString none rest).prepend plain).after leading
    | none => .stop .malformed
  | c :: rest => if c.toNat < 32 then .stop .malformed else ((scanString none rest).prepend c).after leading

/-- A string as a draft. -/
def ofStringScan (s : StringScan) : Scanned Draft :=
  match s.rest with
  | .ok rest => ⟨.string (s.content.map String.ofList), some rest⟩
  | .error passing =>
    match s.content with
    | .error reading => ⟨.broken reading passing, none⟩
    | .ok _ => ⟨.broken passing passing, none⟩

/-! Values. -/

/-- Reads the colon after a member's name, up to the start of the value. -/
def scanColon (text : List Char) : Except Fault (List Char) :=
  match skipSpace text with
  | ':' :: rest => .ok rest
  | [] => .error .truncated
  | _ => .error .malformed

mutual

/-- Reads a value. Every character of the text takes at most two units of fuel. -/
def scanValue : Nat → List Char → Scanned Draft
  | 0, _ => cutAt .malformed
  | fuel + 1, text =>
    match skipSpace text with
    | [] => cutAt .truncated
    | 'n' :: rest => scanWord .null ['u', 'l', 'l'] rest
    | 't' :: rest => scanWord (.bool true) ['r', 'u', 'e'] rest
    | 'f' :: rest => scanWord (.bool false) ['a', 'l', 's', 'e'] rest
    | '"' :: rest => ofStringScan (scanString none rest)
    | '-' :: rest => scanNumber true rest
    | '[' :: rest =>
      let scanned := scanItems fuel true rest
      ⟨.array scanned.value.1 scanned.value.2, scanned.rest⟩
    | '{' :: rest =>
      let scanned := scanMembers fuel true rest
      ⟨.object scanned.value.1 scanned.value.2, scanned.rest⟩
    | c :: rest => if Decimal.isDigit c then scanNumber false (c :: rest) else cutAt .malformed

/-- Reads the items of an array, from one on. -/
def scanItems : Nat → Bool → List Char → Scanned (List Draft × Ending)
  | 0, _, _ => ⟨([], .cut .malformed .malformed), none⟩
  | fuel + 1, first, text =>
    let item (start : List Char) : Scanned (List Draft × Ending) :=
      let scanned := scanValue fuel start
      match scanned.rest with
      | none => ⟨([scanned.value], .closed), none⟩
      | some rest =>
        let others := scanItems fuel false rest
        ⟨(scanned.value :: others.value.1, others.value.2), others.rest⟩
    match skipSpace text with
    | [] => ⟨([], .cut .truncated .truncated), none⟩
    | ']' :: rest => ⟨([], .closed), some rest⟩
    | ',' :: rest => if first then item (',' :: rest) else item rest
    | c :: rest => if first then item (c :: rest) else ⟨([], .cut .malformed .malformed), none⟩

/-- Reads the members of an object, from one on. -/
def scanMembers : Nat → Bool → List Char → Scanned (List (Except Fault String × Draft) × Ending)
  | 0, _, _ => ⟨([], .cut .malformed .malformed), none⟩
  | fuel + 1, first, text =>
    let member (start : List Char) : Scanned (List (Except Fault String × Draft) × Ending) :=
      match skipSpace start with
      | [] => ⟨([], .cut .truncated .truncated), none⟩
      | '"' :: rest =>
        let name := scanString none rest
        match name.rest with
        | .error passing =>
          match name.content with
          | .error reading => ⟨([], .cut reading passing), none⟩
          | .ok _ => ⟨([], .cut passing passing), none⟩
        | .ok afterName =>
          let name := name.content.map String.ofList
          match scanColon afterName with
          | .error fault => ⟨([(name, .broken fault fault)], .closed), none⟩
          | .ok afterColon =>
            let scanned := scanValue fuel afterColon
            match scanned.rest with
            | none => ⟨([(name, scanned.value)], .closed), none⟩
            | some rest =>
              let others := scanMembers fuel false rest
              ⟨((name, scanned.value) :: others.value.1, others.value.2), others.rest⟩
      | _ => ⟨([], .cut .malformed .malformed), none⟩
    match skipSpace text with
    | [] => ⟨([], .cut .truncated .truncated), none⟩
    | '}' :: rest => ⟨([], .closed), some rest⟩
    | ',' :: rest => if first then ⟨([], .cut .malformed .malformed), none⟩ else member rest
    | c :: rest => if first then member (c :: rest) else ⟨([], .cut .malformed .malformed), none⟩

end

/-- Reads a text as a draft, and tells whether anything but blanks follows the value. -/
def ofText (text : List Char) : Draft × Bool :=
  let scanned := scanValue (2 * text.length + 2) text
  (scanned.value, scanned.rest.any fun rest => !(skipSpace rest).isEmpty)

/-! Passing over. -/

def Ending.passOver : Ending → Except Fault Unit
  | .closed => .ok ()
  | .cut _ passing => .error passing

mutual

/-- The fault that is met when a draft is passed over, if there is one. -/
def passOver : Draft → Except Fault Unit
  | .broken _ passing => .error passing
  | .array items ending => do
    passOverItems items
    Ending.passOver ending
  | .object members ending => do
    passOverMembers members
    Ending.passOver ending
  | _ => .ok ()

def passOverItems : List Draft → Except Fault Unit
  | [] => .ok ()
  | item :: rest => do
    passOver item
    passOverItems rest

def passOverMembers : List (Except Fault String × Draft) → Except Fault Unit
  | [] => .ok ()
  | (_, value) :: rest => do
    passOver value
    passOverMembers rest

end

end Draft

end TableQuery.Json
