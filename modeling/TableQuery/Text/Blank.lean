import TableQuery.Text.Ranges

/-!
Blank characters.

A character is blank when it separates words without a mark of its own; there are twenty-five of them. Trimming removes
blanks from the ends of a text and keeps those inside.
-/

namespace TableQuery.Text

/-- The blank characters. -/
def blankRanges : List (Nat × Nat) :=
  [(0x0009, 0x000D), (0x0020, 0x0020), (0x0085, 0x0085), (0x00A0, 0x00A0), (0x1680, 0x1680), (0x2000, 0x200A),
   (0x2028, 0x2029), (0x202F, 0x202F), (0x205F, 0x205F), (0x3000, 0x3000)]

def isBlank (c : Char) : Bool := inRanges blankRanges c

def trimStart (text : List Char) : List Char := text.dropWhile isBlank

def trimEnd (text : List Char) : List Char := (text.reverse.dropWhile isBlank).reverse

def trim (text : List Char) : List Char := trimEnd (trimStart text)

@[simp]
theorem trim_nil : trim [] = [] := rfl

theorem trimStart_cons_of_blank {c : Char} (text : List Char) (h : isBlank c) :
    trimStart (c :: text) = trimStart text := by
  simp [trimStart, h]

theorem trimStart_cons_of_not_blank {c : Char} (text : List Char) (h : ¬isBlank c) :
    trimStart (c :: text) = c :: text := by
  simp [trimStart, h]

end TableQuery.Text
