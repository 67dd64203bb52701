import TableQuery.Text.Ranges
import TableQuery.Text.Width.Table

/-!
Display width of texts, in columns of a terminal.

A text is measured from its end to its start, because what a character adds can depend on what follows it: a skin tone
joins the picture before it, a variation selector changes the size of the character before it, and some letters of a
script are drawn as one. `Width.Follower` is all that the measure remembers of the text to the right.
-/

namespace TableQuery.Text

namespace Width

/-- The letters that can be drawn as one with a letter before them, also across marks that are not seen. -/
inductive Ligature where
  | hebrewLamed
  /-- A Khmer letter that can be written below another one. -/
  | khmer
  | bugineseYa
  /-- The Buginese vowel that stands before a joined `bugineseYa`. -/
  | bugineseVowel
  | tifinagh
  /-- The Tifinagh joiner, before a consonant. -/
  | tifinaghJoiner
  | lisuTone
  | orkhonI
deriving DecidableEq

/-- What stands to the right of a character, as far as it can change what the character adds. -/
inductive Kind where
  | nothing
  | lineFeed
  | skinTone
  /-- A letter of a flag. -/
  | flagLetter
  /-- Two or more letters of flags. -/
  | flagLetters
  /-- A picture, whose columns are counted. -/
  | picture
  /-- A joiner, then a picture. -/
  | joinedPicture
  /-- The frame of a key, joined to a picture. -/
  | joinedKeycap
  /-- A letter of a flag, joined to a picture. -/
  | joinedFlagLetter
  /-- Two or more letters of flags that are joined to a picture; `true` if their number is odd. -/
  | joinedFlagLetters (odd : Bool)
  /-- The end of a tag that is joined to a picture, with some letters before the end. -/
  | tagLetters (count : Nat)
  /-- Such a tag that has come to its digits, with some of them read. -/
  | tagDigits (count : Nat)
  | kiratRaiE
  | kiratRaiAi
  | alef
  /-- A letter of a ligature; `true` if a joiner stands before it. -/
  | ligature (letter : Ligature) (joined : Bool)
deriving DecidableEq

/-- The presentations that a variation selector asks for. -/
inductive Style where
  | picture
  | text
deriving DecidableEq

/-- What stands to the right of a character: a variation selector, if any, and what follows the selector. -/
structure Follower where
  kind : Kind
  style : Option Style
deriving DecidableEq

def joiner : Char := '\u200D'

def isSkinTone (c : Char) : Bool := inRanges [(0x1F3FB, 0x1F3FF)] c

def isFlagLetter (c : Char) : Bool := inRanges [(0x1F1E6, 0x1F1FF)] c

def isTagLetter (c : Char) : Bool := inRanges [(0xE0061, 0xE007A)] c

def isTagDigit (c : Char) : Bool := inRanges [(0xE0030, 0xE0039)] c

def isPicture (c : Char) : Bool := inRanges pictureRanges c

/-- The characters whose presentation a variation selector chooses. -/
def isVariable (c : Char) : Bool := inRanges variableRanges c

/-- The pictures that the selector of text style narrows; those with an ideograph stay wide. -/
def isNarrowedPicture (c : Char) : Bool := isVariable c && isPicture c && !inRanges [(0x1F200, 0x1F2FF)] c

def isLam (c : Char) : Bool :=
  inRanges [(0x644, 0x644), (0x6B5, 0x6B8), (0x76A, 0x76A), (0x8A6, 0x8A6), (0x8C7, 0x8C7)] c

def isAlef (c : Char) : Bool :=
  inRanges [(0x622, 0x623), (0x625, 0x625), (0x627, 0x627), (0x671, 0x673), (0x675, 0x675), (0x773, 0x774),
    (0x870, 0x882)] c

/-- The Khmer letters that can be written below another one. -/
def isSubscriptKhmer (c : Char) : Bool :=
  inRanges [(0x1780, 0x1782), (0x1784, 0x1787), (0x1789, 0x178C), (0x178E, 0x1793), (0x1795, 0x1798),
    (0x179B, 0x179D), (0x17A0, 0x17A0), (0x17A2, 0x17A2), (0x17A7, 0x17A7), (0x17AB, 0x17AC), (0x17AF, 0x17AF)] c

def isTifinaghConsonant (c : Char) : Bool := inRanges [(0x2D31, 0x2D65), (0x2D6F, 0x2D6F)] c

/-- The marks that do not keep letters from being drawn as one. -/
def isUnseen (c : Char) : Bool :=
  inRanges [(0x34F, 0x34F), (0x17B4, 0x17B5), (0x180B, 0x180D), (0x180F, 0x180F), (0x200D, 0x200D),
    (0xFE00, 0xFE0F), (0xE0100, 0xE01EF)] c

/-- What a letter is to one before it that it can be drawn together with. -/
def letter? (c : Char) : Option Kind :=
  if isAlef c then some .alef
  else if isSubscriptKhmer c then some (.ligature .khmer false)
  else if isTifinaghConsonant c then some (.ligature .tifinagh false)
  else
    match c.toNat with
    | 0x05DC => some (.ligature .hebrewLamed false)
    | 0x1A10 => some (.ligature .bugineseYa false)
    | 0xA4FC | 0xA4FD => some (.ligature .lisuTone false)
    | 0x10C03 => some (.ligature .orkhonI false)
    | 0x16D67 => some .kiratRaiE
    | 0x16D68 => some .kiratRaiAi
    | _ => none

/-- The columns of a character that stands alone, and what it is to the character before it. -/
def alone (c : Char) : Int × Kind :=
  if isSkinTone c then (2, .skinTone)
  else if isFlagLetter c then (1, .flagLetter)
  else if isPicture c then (2, .picture)
  else
    match letter? c with
    | some kind => (1, kind)
    | none =>
      if c = '\u17D8' then (3, .nothing)
      else (if inRanges zeroRanges c then 0 else if inRanges wideRanges c then 2 else 1, .nothing)

/-- The columns that a character adds before an alef; a lam is drawn as one with it. -/
def beforeAlef (c : Char) : Int × Kind :=
  if isLam c then (0, .nothing)
  else if inRanges joinTransparentRanges c then (0, .alef)
  else alone c

/-- The columns that a character adds next to a letter of a ligature. -/
def besideLigature (c : Char) (letter : Ligature) (joined : Bool) : Int × Kind :=
  match letter with
  | .hebrewLamed => if joined && c = '\u05D0' then (0, .nothing) else alone c
  | .khmer => if c = '\u17D2' then (-1, .nothing) else alone c
  | .bugineseYa => if joined && c = '\u1A17' then (0, .ligature .bugineseVowel true) else alone c
  | .bugineseVowel => if c = '\u1A15' then (0, .nothing) else alone c
  | .tifinagh =>
    if c = '\u2D7F' then (1, .ligature .tifinaghJoiner true)
    else if joined && isTifinaghConsonant c then (0, .nothing)
    else alone c
  | .tifinaghJoiner => if isTifinaghConsonant c then (-1, .nothing) else alone c
  | .lisuTone => if inRanges [(0xA4F8, 0xA4FB)] c then (0, .nothing) else alone c
  | .orkhonI => if joined && c.toNat = 0x10C32 then (0, .nothing) else alone c

/-- The columns that a character adds before a letter of a ligature; joiners and unseen marks add nothing. -/
def beforeLigature (c : Char) (letter : Ligature) (joined : Bool) : Int × Kind :=
  if c = joiner then (0, .ligature letter true)
  else if isUnseen c then (0, .ligature letter joined)
  else besideLigature c letter joined

/-- The columns that a character adds before a picture or other sign that a joiner can stand before. -/
def beforeJoinable (c : Char) : Int × Kind := if c = joiner then (0, .joinedPicture) else alone c

/-- The columns that a character adds before a joined picture. -/
def beforeJoinedPicture (c : Char) : Int × Kind :=
  if c = '\u20E3' then (0, .joinedKeycap)
  else if isFlagLetter c then (1, .joinedFlagLetter)
  else if isSkinTone c then (0, .skinTone)
  else if c.toNat = 0xE007F then (0, .tagLetters 0)
  else if isPicture c then (0, .picture)
  else alone c

/-- The columns that a character adds before the letters of a tag. A tag starts with a black flag. -/
def beforeTagLetters (c : Char) (count : Nat) : Int × Kind :=
  if isTagLetter c && count < 6 then (0, .tagLetters (count + 1))
  else if isTagDigit c && count < 5 then (0, .tagDigits 1)
  else if c.toNat = 0x1F3F4 && 3 ≤ count then (0, .picture)
  else alone c

/-- The columns that a character adds before the digits of a tag. -/
def beforeTagDigits (c : Char) (count : Nat) : Int × Kind :=
  if isTagDigit c && count < 3 then (0, .tagDigits (count + 1))
  else if c.toNat = 0x1F3F4 && 3 ≤ count then (0, .picture)
  else alone c

/-- The columns that a character adds before the Kirat Rai vowel E. -/
def beforeKiratRaiE (c : Char) : Int × Kind :=
  match c.toNat with
  | 0x16D63 | 0x16D69 => (0, .nothing)
  | 0x16D67 => (0, .kiratRaiAi)
  | 0x16D68 => (1, .kiratRaiE)
  | _ => alone c

/-- The columns that a character other than a selector adds, and what it is to the character before it. -/
def ordinary (c : Char) : Kind → Int × Kind
  | .nothing | .lineFeed | .joinedKeycap => alone c
  | .alef => beforeAlef c
  | .ligature letter joined => beforeLigature c letter joined
  | .picture => beforeJoinable c
  | .skinTone => if inRanges tonedRanges c then (0, .picture) else beforeJoinable c
  | .flagLetter => if isFlagLetter c then (1, .flagLetters) else alone c
  | .flagLetters => if isFlagLetter c then (1, .flagLetters) else beforeJoinable c
  | .joinedPicture => beforeJoinedPicture c
  | .joinedFlagLetter => if isFlagLetter c then (-1, .joinedFlagLetters false) else alone c
  | .joinedFlagLetters odd =>
    if isFlagLetter c then (if odd then -1 else 3, .joinedFlagLetters !odd) else beforeJoinable c
  | .tagLetters count => beforeTagLetters c count
  | .tagDigits count => beforeTagDigits c count
  | .kiratRaiE => beforeKiratRaiE c
  | .kiratRaiAi => if c.toNat = 0x16D63 then (0, .nothing) else alone c

/-- Whether what stands to the right is a letter of a script, which a selector before it does not hide. -/
def Kind.isScript : Kind → Bool
  | .alef | .ligature _ _ => true
  | _ => false

/-- Whether a sign that is drawn as a picture joins what stands to the right of its selector. -/
def Kind.isJoined : Kind → Bool
  | .joinedPicture | .joinedKeycap => true
  | _ => false

/-- What stands to the right of a character whose presentation no selector can choose. -/
def Follower.seen (follower : Follower) : Kind :=
  if follower.style.isNone || follower.kind.isScript then follower.kind else .nothing

/-- The columns that a character adds, and what it is to the character before it. -/
def step (c : Char) (next : Follower) : Int × Follower :=
  if next.style = some .picture && isVariable c then (if next.kind.isJoined then 0 else 2, ⟨.picture, none⟩)
  else if c = '\n' then (1, ⟨.lineFeed, none⟩)
  else if c = '\r' && next.seen = .lineFeed then (0, ⟨.nothing, none⟩)
  else if c.toNat ≤ 0xA0 then (1, ⟨.nothing, none⟩)
  else if c = '\uFE0F' then
    (0, ⟨if next.seen.isScript || next.seen.isJoined then next.seen else .nothing, some .picture⟩)
  else if c = '\uFE0E' then (0, ⟨if next.seen.isScript then next.seen else .nothing, some .text⟩)
  else if next.style = some .text && isNarrowedPicture c then (1, ⟨.nothing, none⟩)
  else
    let (added, kind) := ordinary c next.seen
    (added, ⟨kind, none⟩)

/-- The columns of a text, and what the text is to a character before it. -/
def measure : List Char → Int × Follower
  | [] => (0, ⟨.nothing, none⟩)
  | c :: rest =>
    let (columns, next) := measure rest
    let (added, follower) := step c next
    (columns + added, follower)

end Width

/-- The display width of a text, in columns. -/
def width (text : List Char) : Nat := (Width.measure text).1.toNat

end TableQuery.Text
