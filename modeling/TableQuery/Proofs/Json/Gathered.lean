import TableQuery.Proofs.Json.Lexeme

/-!
# Gathering the digits of a number

Digits that make up an integer of 64 bits are all gathered, and then the value
of a number is its *significand*, the integer of all its digits, scaled by its
*scale*, the power of ten that remains.
-/

namespace TableQuery.Json

namespace Numeral.Gathered

theorem le_ofDigitChars (digits : List Char) (n : Nat) : n ≤ Nat.ofDigitChars 10 digits n := by
  rw [Nat.ofDigitChars_eq_ofDigitChars_zero]
  exact Nat.le_add_right_of_le (Nat.le_mul_of_pos_left n (Nat.pow_pos (by decide)))

theorem ofDigitChars_cons_digitValue (c : Char) (digits : List Char) (n : Nat) :
    Nat.ofDigitChars 10 (c :: digits) n =
      Nat.ofDigitChars 10 digits (10 * n + Decimal.digitValue c) :=
  Nat.ofDigitChars_cons

theorem fits_of_lt {c : Char} {digits : List Char} {n : Nat} {exponent : Int} {full : Bool}
    (h : Nat.ofDigitChars 10 (c :: digits) n < 1 <<< 64) :
    fits ⟨n, exponent, full⟩ (Decimal.digitValue c) = true := by
  rw [ofDigitChars_cons_digitValue] at h
  exact decide_eq_true (Nat.lt_of_le_of_lt (le_ofDigitChars digits _) h)

theorem foldl_appendWhole {digits : List Char} {n : Nat} {exponent : Int}
    (h : Nat.ofDigitChars 10 digits n < 1 <<< 64) :
    digits.foldl appendWhole ⟨n, exponent, false⟩ =
      ⟨Nat.ofDigitChars 10 digits n, exponent, false⟩ := by
  induction digits generalizing n with
  | nil => rfl
  | cons c digits ih =>
      have hstep : appendWhole ⟨n, exponent, false⟩ c =
          ⟨10 * n + Decimal.digitValue c, exponent, false⟩ := by
        simp [appendWhole, fits_of_lt h]
      rw [ofDigitChars_cons_digitValue] at h ⊢
      rw [List.foldl_cons, hstep, ih h]

theorem foldl_appendFraction {digits : List Char} {n : Nat} {exponent : Int}
    (h : Nat.ofDigitChars 10 digits n < 1 <<< 64) :
    digits.foldl appendFraction ⟨n, exponent, false⟩ =
      ⟨Nat.ofDigitChars 10 digits n, exponent - digits.length, false⟩ := by
  induction digits generalizing n exponent with
  | nil => simp [Nat.ofDigitChars_nil]
  | cons c digits ih =>
      have hstep : appendFraction ⟨n, exponent, false⟩ c =
          ⟨10 * n + Decimal.digitValue c, exponent - 1, false⟩ := by
        simp [appendFraction, fits_of_lt h]
      have hexponent : exponent - 1 - digits.length = exponent - (digits.length + 1 : Nat) := by
        omega
      rw [ofDigitChars_cons_digitValue] at h ⊢
      rw [List.foldl_cons, hstep, ih h, List.length_cons, ← hexponent]

end Numeral.Gathered

namespace Lexeme

/-- The digits after the point. -/
def fractionDigits (l : Lexeme) : List Char := l.fraction.getD []

/-- The integer of all digits. -/
def significand (l : Lexeme) : Nat := Decimal.ofDigits (l.whole ++ l.fractionDigits)

/-- The power of ten that the significand has to be multiplied by. -/
def scale (l : Lexeme) : Int :=
  -(l.fractionDigits.length : Int) +
    match l.exponent with
    | none => 0
    | some (true, digits) => -(Decimal.ofDigits digits : Int)
    | some (false, digits) => Decimal.ofDigits digits

end Lexeme

namespace Numeral

open Gathered

/-- The value of a number with a fraction or an exponent, if its digits fit. -/
theorem ofLexeme?_eq {l : Lexeme} (hpart : l.fraction ≠ none ∨ l.exponent ≠ none)
    (h : l.significand < 1 <<< 64) :
    ofLexeme? l = (scale 5 (.ofNat l.significand) l.scale).map fun x =>
      .real (negate l.negative x) := by
  obtain ⟨negative, whole, fraction, exponent⟩ := l
  have hsplit : Lexeme.significand ⟨negative, whole, fraction, exponent⟩ =
      Nat.ofDigitChars 10 (fraction.getD []) (Nat.ofDigitChars 10 whole 0) := by
    rw [Lexeme.significand, Decimal.ofDigits_eq, Nat.ofDigitChars_append]
    rfl
  rw [hsplit] at h ⊢
  have hwhole : ofWhole whole = ⟨Nat.ofDigitChars 10 whole 0, 0, false⟩ :=
    foldl_appendWhole (Nat.lt_of_le_of_lt (le_ofDigitChars _ _) h)
  cases fraction with
  | none =>
      cases exponent with
      | none => simp at hpart
      | some part =>
          obtain ⟨down, digits⟩ := part
          cases down <;> simp [ofLexeme?, hwhole, Lexeme.scale, Lexeme.fractionDigits,
            Nat.ofDigitChars_nil]
  | some digits =>
      have hfraction : withFraction ⟨Nat.ofDigitChars 10 whole 0, 0, false⟩ digits =
          ⟨Nat.ofDigitChars 10 digits (Nat.ofDigitChars 10 whole 0), 0 - digits.length, false⟩ :=
        foldl_appendFraction h
      cases exponent with
      | none =>
          simp [ofLexeme?, hwhole, hfraction, Lexeme.scale, Lexeme.fractionDigits]
      | some part =>
          obtain ⟨down, digits⟩ := part
          cases down <;> simp [ofLexeme?, hwhole, hfraction, Lexeme.scale, Lexeme.fractionDigits]

/-- Integers of up to 63 bits are read as they are. -/
theorem ofLexeme?_integer {n : Int} (h : n.natAbs ≤ 1 <<< 63) :
    ofLexeme? ⟨decide (n < 0), Nat.toDigits 10 n.natAbs, none, none⟩ = some (.integer n) := by
  have hwhole : ofWhole (Nat.toDigits 10 n.natAbs) = ⟨n.natAbs, 0, false⟩ := by
    have hdigits : Nat.ofDigitChars 10 (Nat.toDigits 10 n.natAbs) 0 = n.natAbs :=
      Nat.ofDigitChars_ten_toDigits
    have hlt : Nat.ofDigitChars 10 (Nat.toDigits 10 n.natAbs) 0 < 1 <<< 64 := by
      rw [hdigits]
      exact Nat.lt_of_le_of_lt h (by decide)
    have hfold : ofWhole (Nat.toDigits 10 n.natAbs) = _ := foldl_appendWhole hlt
    rwa [hdigits] at hfold
  rcases Int.lt_or_le n 0 with hneg | hpos
  · have hne : n ≠ 0 := by omega
    have habs : -(n.natAbs : Int) = n := by omega
    have hsmall : ¬1 <<< 63 < n.natAbs := Nat.not_lt.mpr h
    simp only [ofLexeme?, hwhole, hneg, decide_true, Bool.not_true, Int.natAbs_eq_zero, hne,
      decide_false, hsmall, habs]
    rfl
  · have habs : (n.natAbs : Int) = n := by omega
    have hsign : ¬n < 0 := by omega
    simp only [ofLexeme?, hwhole, hsign, decide_false, Bool.not_false, habs]
    rfl

end Numeral

end TableQuery.Json
