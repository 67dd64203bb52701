import TableQuery.Text.Ranges
import TableQuery.Text.Quoted.Table

/-!
Quoted texts, as they are shown in messages.

A quoted text stands between double quotes on one line: quotes and backslashes are escaped, the common control
characters have an escape of one letter, and every other character that would not be seen is written by its number.
-/

namespace TableQuery.Text

namespace Quoted

/-- A character by its code point in hexadecimal. -/
def byNumber (c : Char) : List Char :=
  '\\' :: 'u' :: '{' :: (Nat.toDigits 16 c.toNat ++ ['}'])

def escape (c : Char) : List Char :=
  if c = '\x00' then ['\\', '0']
  else if c = '\t' then ['\\', 't']
  else if c = '\n' then ['\\', 'n']
  else if c = '\r' then ['\\', 'r']
  else if c = '"' then ['\\', '"']
  else if c = '\\' then ['\\', '\\']
  else if c.toNat < 32 || c.toNat = 127 || inRanges hiddenRanges c then byNumber c
  else [c]

end Quoted

/-- A text between double quotes, with all that would not be seen escaped. -/
def quoted (text : List Char) : List Char := '"' :: (text.flatMap Quoted.escape ++ ['"'])

end TableQuery.Text
