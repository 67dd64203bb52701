import Mathlib.Data.List.Basic
import TableQuery.Cell.Reading
import TableQuery.Proofs.Text.Blank

/-!
# Readings of texts as numbers

The steps of the scan in the form in which they are reasoned about: an unsigned
literal is its digits, a fraction, and an exponent, each taken from what the part
before it leaves. A text is a number as a whole when the scan of it, trimmed,
leaves nothing. Whatever is read is a number indeed.
-/

namespace TableQuery

theorem Text.isBlank_of_isDigit {c : Char} (h : Decimal.isDigit c = true) : isBlank c = false := by
  have hrange : 48 ≤ c.toNat ∧ c.toNat ≤ 57 := by
    simpa [Decimal.isDigit, Char.le_def, UInt32.le_iff_toNat_le] using h
  simp [isBlank, inRanges, blankRanges]
  omega

namespace Decimal

/-- The digits behind a point that comes next, and the text after them. -/
def splitFraction : List Char → List Char × List Char
  | '.' :: tail => (tail.takeWhile isDigit, tail.dropWhile isDigit)
  | text => ([], text)

theorem scanUnsigned_eq (negative : Bool) (text : List Char) :
    scanUnsigned negative text =
      if (text.takeWhile isDigit).isEmpty && (splitFraction (text.dropWhile isDigit)).1.isEmpty then
        none
      else
        some (⟨negative,
          ofDigits (text.takeWhile isDigit ++ (splitFraction (text.dropWhile isDigit)).1),
          (scanExponent (splitFraction (text.dropWhile isDigit)).2).1 -
            (splitFraction (text.dropWhile isDigit)).1.length⟩,
          (scanExponent (splitFraction (text.dropWhile isDigit)).2).2) := by
  rw [scanUnsigned]
  cases text.dropWhile isDigit with
  | nil => rfl
  | cons c after =>
      by_cases hpoint : c = '.'
      · rw [hpoint]
        rfl
      · simp [splitFraction, hpoint]

end Decimal

namespace Number

variable {text : List Char} {n : Number}

theorem ofText?_eq_some_iff : ofText? text = some n ↔ scan (Text.trim text) = some (n, []) := by
  rw [ofText?]
  split
  · next m hscan => rw [hscan]; simp
  · next hnone =>
    constructor
    · intro h
      cases h
    · intro h
      exact (hnone n h).elim

theorem scan_ne_nan {tail : List Char} (h : scan text = some (n, tail)) : n ≠ .nan := by
  simp only [scan] at h
  split at h
  · rintro rfl
    simp at h
  · obtain ⟨⟨d, rest⟩, -, hd⟩ := Option.map_eq_some_iff.mp h
    rw [← (Prod.mk.inj hd).1]
    simp [Decimal.toNumber]

end Number

theorem Cell.leadingNumber?_ne_nan {cell : Cell} {n : Number} (h : cell.leadingNumber? = some n) :
    n ≠ .nan := by
  cases cell with
  | text s =>
      obtain ⟨⟨m, tail⟩, hscan, rfl⟩ := Option.map_eq_some_iff.mp h
      exact Number.scan_ne_nan hscan
  | number m =>
      cases m with
      | nan => cases h
      | signed negative m =>
          cases h
          exact Number.noConfusion
  | null => cases h

end TableQuery
