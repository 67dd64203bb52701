import Mathlib.Algebra.Group.Nat.Defs
import TableQuery.Number.Shortest

/-!
# Significant digits

The significant digits of a decimal are the digits of an integer again: of its
coefficient without the trailing zeros. The power of ten that goes with this
integer is told by the exponent of the leading digit.
-/

namespace TableQuery

namespace Decimal

theorem isDigit_eq (c : Char) : isDigit c = c.isDigit := by
  rw [isDigit, Char.isDigit, Bool.eq_iff_iff]
  simp only [Bool.and_eq_true, decide_eq_true_eq]
  exact Iff.rfl

theorem isDigit_of_mem_toDigits {n : Nat} {c : Char} (h : c ∈ Nat.toDigits 10 n) :
    isDigit c = true := by
  rw [isDigit_eq]
  exact Nat.isDigit_of_mem_toDigits (by decide) (by decide) h

theorem ofDigits_eq (digits : List Char) : ofDigits digits = Nat.ofDigitChars 10 digits 0 :=
  Nat.ofDigitChars_eq_foldl.symm

@[simp] theorem ofDigits_toDigits (n : Nat) : ofDigits (Nat.toDigits 10 n) = n := by
  rw [ofDigits_eq, Nat.ofDigitChars_ten_toDigits]

/-- Zeros in front change nothing. -/
theorem ofDigits_replicate_append (k : Nat) (digits : List Char) :
    ofDigits (List.replicate k '0' ++ digits) = ofDigits digits := by
  rw [ofDigits_eq, ofDigits_eq, Nat.ofDigitChars_append, Nat.ofDigitChars_replicate_zero,
    Nat.mul_zero]

/-- Every zero behind multiplies by ten. -/
theorem ofDigits_append_replicate (digits : List Char) (k : Nat) :
    ofDigits (digits ++ List.replicate k '0') = ofDigits digits * 10 ^ k := by
  rw [ofDigits_eq, ofDigits_eq, Nat.ofDigitChars_append, Nat.ofDigitChars_replicate_zero,
    Nat.mul_comm]

/-- A positive integer is written without a zero in front. -/
theorem head?_toDigits_ne {n : Nat} (h : 0 < n) : (Nat.toDigits 10 n).head? ≠ some '0' := by
  induction n using Nat.strongRecOn with
  | ind n ih =>
      rcases Nat.lt_or_ge n 10 with hsmall | hlarge
      · rw [Nat.toDigits_of_lt_base hsmall]
        have hdigit : ∀ d < 10, 0 < d → [Nat.digitChar d].head? ≠ some '0' := by decide
        exact hdigit n hsmall h
      · have hhead := ih (n / 10) (by omega) (by omega)
        rw [Nat.toDigits_of_base_le (by decide) hlarge]
        cases hfront : Nat.toDigits 10 (n / 10) with
        | nil => exact absurd hfront Nat.toDigits_ne_nil
        | cons c rest =>
            rw [hfront] at hhead
            exact hhead

end Decimal

namespace Digits

theorem ofDecimal_of_mod_ne_zero {n : Nat} (h : n % 10 ≠ 0) (exponent : Int) :
    ofDecimal n exponent = ⟨Nat.toDigits 10 n, exponent + (Nat.toDigits 10 n).length - 1⟩ := by
  have hlast : Nat.digitChar (n % 10) ≠ '0' := by
    have hdigit : ∀ d < 10, d ≠ 0 → Nat.digitChar d ≠ '0' := by decide
    exact hdigit _ (Nat.mod_lt n (by decide)) h
  obtain ⟨front, hfront⟩ : ∃ front, Nat.toDigits 10 n = front ++ [Nat.digitChar (n % 10)] := by
    rw [Nat.toDigits_eq_if (by decide)]
    split
    · next hsmall => exact ⟨[], by rw [Nat.mod_eq_of_lt hsmall, List.nil_append]⟩
    · exact ⟨_, rfl⟩
  rw [ofDecimal, hfront, List.reverse_append]
  simp [hlast]

/-- A trailing zero only moves the leading digit. -/
theorem ofDecimal_ten_mul {n : Nat} (h : 0 < n) (exponent : Int) :
    ofDecimal (10 * n) exponent = ofDecimal n (exponent + 1) := by
  have hdigits : Nat.toDigits 10 (10 * n) = Nat.toDigits 10 n ++ ['0'] := by
    rw [Nat.toDigits_of_base_le (by decide) (by omega), Nat.mul_div_cancel_left n (by decide),
      Nat.mul_mod_right]
    rfl
  have hlead : exponent + ((Nat.toDigits 10 n).length + 1 : Nat) - 1 =
      exponent + 1 + (Nat.toDigits 10 n).length - 1 := by omega
  simp only [ofDecimal, hdigits, List.reverse_append, List.length_append, List.length_singleton,
    hlead]
  simp

/-- The significant digits are those of an integer. -/
theorem ofDecimal_eq {n : Nat} (h : 0 < n) (exponent : Int) :
    ∃ significand zeros : Nat, 0 < significand ∧ n = significand * 10 ^ zeros ∧
      ofDecimal n exponent = ⟨Nat.toDigits 10 significand,
        exponent + zeros + (Nat.toDigits 10 significand).length - 1⟩ := by
  induction n using Nat.strongRecOn generalizing exponent with
  | ind n ih =>
      by_cases hlast : n % 10 = 0
      · obtain ⟨k, rfl⟩ : ∃ k, n = 10 * k := ⟨n / 10, by omega⟩
        obtain ⟨significand, zeros, hpos, hk, heq⟩ := ih k (by omega) (by omega) (exponent + 1)
        refine ⟨significand, zeros + 1, hpos, ?_, ?_⟩
        · rw [Nat.pow_succ, ← Nat.mul_assoc, ← hk, Nat.mul_comm]
        · rw [ofDecimal_ten_mul (by omega), heq]
          congr 2
          omega
      · refine ⟨n, 0, h, (Nat.mul_one n).symm, ?_⟩
        rw [ofDecimal_of_mod_ne_zero hlast]
        simp

end Digits

end TableQuery
