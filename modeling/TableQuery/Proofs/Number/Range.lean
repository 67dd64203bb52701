import TableQuery.Proofs.Number.Digits
import TableQuery.Proofs.Number.Scaling
import TableQuery.Proofs.Number.Shortest

/-!
# The end of the range

A value is out of range from the middle of the last step on, `overflowLimit`.
The significant digits of a finite magnitude are below it, and they stay below
it when they are scaled with rounding. For most exponents there is room enough
above all integers with as many digits; next to the greatest magnitude there is
not, and there its own digits have to be looked at.
-/

namespace TableQuery.Magnitude

/-- The middle between the greatest finite magnitude and the first one out of range. -/
def overflowLimit : Nat := (2 ^ 54 - 1) * 2 ^ 970

/-- The numerals that the bounds below come down to. -/
theorem overflowLimit_bounds :
    10 ^ 308 < overflowLimit ∧ overflowLimit < 10 ^ 309 ∧
      (2 ^ 53 - 1) * 2 ^ 971 ≤ 17976931348623158 * 10 ^ 292 ∧
      17976931348623156 * ((2 ^ 53 * 100 + 91) * 10 ^ 292) < overflowLimit * (2 ^ 53 * 100) := by
  decide +kernel

theorem unitsOf_last : unitsOf (top - 1) = (2 ^ 53 - 1) * 2 ^ 971 * perOne := by
  have hcode : top - 1 = 2045 * runLength + (2 ^ 53 - 1) := by decide
  rw [hcode, unitsOf_run (.inr (by decide)) (by decide), perOne_eq, Nat.mul_assoc, ← Nat.pow_add]

theorem valueOf_last_add_valueOf_top : valueOf (top - 1) + valueOf top = 2 * overflowLimit := by
  have htop : top = top - 1 + 1 := by decide
  have hgap : gap (top - 1) = 2 ^ 971 * perOne := by
    have hrun : (top - 1) / runLength - 1 = 971 + 1074 := by decide
    rw [gap, hrun, perOne_eq, Nat.pow_add]
  have hunits : unitsOf (top - 1) + unitsOf top = 2 * overflowLimit * perOne := by
    rw [htop, Nat.add_sub_cancel, unitsOf_succ, unitsOf_last, hgap, overflowLimit,
      Nat.pow_succ 2 970]
    ring
  refine mul_right_cancel₀ perOne_pos'.ne' ?_
  rw [add_mul, valueOf_mul_perOne, valueOf_mul_perOne]
  exact_mod_cast hunits

theorem le_overflowLimit {x : ℚ} (hx : 0 ≤ x) (h : codeOf x < top) : x ≤ overflowLimit := by
  have hmiddle := two_mul_le_valueOf hx
  have hfirst : valueOf (codeOf x) ≤ valueOf (top - 1) := valueOf_strictMono.monotone (by omega)
  have hsecond : valueOf (codeOf x + 1) ≤ valueOf top := valueOf_strictMono.monotone h
  linarith [valueOf_last_add_valueOf_top]

theorem codeOf_lt_top {x : ℚ} (hx : 0 ≤ x) (h : x < overflowLimit) : codeOf x < top := by
  by_contra hout
  have htop : 0 < top := by decide
  obtain ⟨below, hbelow⟩ : ∃ below, codeOf x = below + 1 := ⟨codeOf x - 1, by omega⟩
  have hmiddle := valueOf_le_two_mul hx hbelow
  have hfirst : valueOf (top - 1) ≤ valueOf below := valueOf_strictMono.monotone (by omega)
  have hsecond : valueOf top ≤ valueOf (below + 1) := valueOf_strictMono.monotone (by omega)
  linarith [valueOf_last_add_valueOf_top]

theorem codeOf_natCast_lt_top {n : Nat} (h : n < overflowLimit) : codeOf n < top :=
  codeOf_lt_top (Nat.cast_nonneg n) (by exact_mod_cast h)

theorem le_of_mul_ten_pow_le {n k : Nat} (hn : 0 < n) (h : n * 10 ^ k ≤ overflowLimit) :
    k ≤ 308 := by
  have hten : 10 ^ k < 10 ^ 309 :=
    ((Nat.le_mul_of_pos_left _ hn).trans h).trans_lt overflowLimit_bounds.2.1
  exact Nat.le_of_lt_succ (lt_of_ten_pow_lt hten)

theorem ten_pow_lt_overflowLimit {k : Nat} (hk : k ≤ 308) : 10 ^ k < overflowLimit :=
  (Nat.pow_le_pow_right (by decide) hk).trans_lt overflowLimit_bounds.1

/-- A decimal is read as a finite magnitude if that is the magnitude closest to it. -/
theorem ofDecimal_eq_of_codeOf_eq {coefficient : Nat} (hpos : 0 < coefficient) {exponent : Int}
    (hlow : -400 ≤ exponent) {m : Magnitude} (hfinite : m.isFinite)
    (h : codeOf (coefficient * 10 ^ exponent) = m.code) : ofDecimal coefficient exponent = m := by
  have hhigh : exponent ≤ 310 := by
    rcases Int.lt_or_le exponent 0 with hneg | hnonneg
    · omega
    · obtain ⟨k, rfl⟩ := Int.eq_ofNat_of_zero_le hnonneg
      rw [zpow_natCast] at h
      have hlimit : coefficient * 10 ^ k ≤ overflowLimit := by
        exact_mod_cast le_overflowLimit (by positivity) (h ▸ isFinite_iff.mp hfinite)
      have hk := le_of_mul_ten_pow_le hpos hlimit
      omega
  refine code_injective ?_
  rw [code_ofDecimal hpos.ne' hlow hhigh, h]
  exact Nat.min_eq_left m.code_le_top

/-! ## Scaled digits -/

/-- Integers of seventeen digits below the limit stay below it under the errors of scaling. -/
theorem room_below_overflowLimit : ∀ k < 309, k ≠ 292 →
    min (10 ^ 17) (overflowLimit / 10 ^ k) * 10 ^ k * (2 ^ 53 * 100 + 192) <
      overflowLimit * (2 ^ 53 * 100) := by
  decide +kernel

variable {n k : Nat}

theorem mul_tenPow_lt_of_ne (hn : 0 < n) (hn' : n ≤ 10 ^ 17) (hk : k ≤ 308) (hne : k ≠ 292)
    (h : n * 10 ^ k ≤ overflowLimit) : valueOf (codeOf n) * tenPow k < overflowLimit := by
  have hmin : n ≤ min (10 ^ 17) (overflowLimit / 10 ^ k) :=
    le_min hn' ((Nat.le_div_iff_mul_le (Nat.pow_pos (by decide))).mpr h)
  have hroom : n * 10 ^ k * (2 ^ 53 * 100 + 192) < overflowLimit * (2 ^ 53 * 100) :=
    (Nat.mul_le_mul_right _ (Nat.mul_le_mul_right _ hmin)).trans_lt
      (room_below_overflowLimit k (by omega) hne)
  have hroom' : (n * 10 ^ k * (2 ^ 53 * 100 + 192) : ℚ) < overflowLimit * (2 ^ 53 * 100) := by
    exact_mod_cast hroom
  have herror := mul_tenPow_error hn hk
  have habove := le_abs_self (valueOf (codeOf n) * tenPow k - n * 10 ^ k)
  linarith

/-- The greatest finite magnitude has these digits, although one more in the last place would be
read back as well. -/
theorem shortest_last :
    shortest .toEven ⟨top - 1, Nat.sub_le top 1⟩ = (17976931348623157, 292) := by
  decide +kernel

theorem le_of_shortestDigits_eq {m : Magnitude} (hfinite : m.isFinite)
    (hcode : codeOf (n * 10 ^ 292) = m.code)
    (hdigits : m.shortestDigits .toEven =
      ⟨Nat.toDigits 10 n, 292 + (Nat.toDigits 10 n).length - 1⟩) : n ≤ 17976931348623157 := by
  by_contra hgt
  have hlast : valueOf (top - 1) ≤ n * 10 ^ 292 := by
    have hle : unitsOf (top - 1) ≤ n * 10 ^ 292 * perOne := by
      rw [unitsOf_last]
      refine Nat.mul_le_mul_right _ (overflowLimit_bounds.2.2.1.trans ?_)
      exact Nat.mul_le_mul_right _ (by omega)
    rw [valueOf, div_le_iff₀ perOne_pos']
    exact_mod_cast hle
  have hge := codeOf_mono (valueOf_nonneg _) hlast
  rw [codeOf_valueOf, hcode] at hge
  have hlt := isFinite_iff.mp hfinite
  have hlastCode : m.code = top - 1 := by omega
  obtain rfl : m = ⟨top - 1, Nat.sub_le top 1⟩ := code_injective hlastCode
  rw [shortestDigits, shortest_last, Digits.ofDecimal_of_mod_ne_zero (by decide)] at hdigits
  have heq := congrArg Decimal.ofDigits (Digits.mk.inj hdigits).1
  rw [Decimal.ofDigits_toDigits, Decimal.ofDigits_toDigits] at heq
  omega

theorem codeOf_natCast (n : Nat) : codeOf n = nearestCode (n * perOne) 1 := by
  refine (nearestCode_eq_codeOf Nat.one_pos (Nat.cast_nonneg n) ?_).symm
  push_cast
  ring

/-- Next to the greatest magnitude the digits themselves are rounded downwards. -/
theorem valueOf_codeOf_le_of_le (h : n ≤ 17976931348623157) :
    valueOf (codeOf n) ≤ 17976931348623156 := by
  have htie : nearestCode (17976931348623157 * perOne) 1 =
      nearestCode (8988465674311578 * 2 * perOne) 1 := by decide +kernel
  rw [← codeOf_natCast, ← codeOf_natCast] at htie
  have heven : valueOf (codeOf (8988465674311578 * 2 : Nat)) = 8988465674311578 * 2 := by
    have hexact := valueOf_codeOf_mul_two_pow (n := 8988465674311578) (by decide) 1
    rw [Nat.cast_mul]
    simpa using hexact
  have hmono : codeOf (n : ℚ) ≤ codeOf (17976931348623157 : Nat) :=
    codeOf_mono (Nat.cast_nonneg n) (Nat.cast_le.mpr h)
  calc valueOf (codeOf n) ≤ valueOf (codeOf (17976931348623157 : Nat)) :=
        valueOf_strictMono.monotone hmono
    _ = 8988465674311578 * 2 := by rw [htie, heven]
    _ ≤ _ := by norm_num

theorem mul_tenPow_lt_of_le (h : n ≤ 17976931348623157) :
    valueOf (codeOf n) * tenPow 292 < overflowLimit := by
  have hroom := overflowLimit_bounds.2.2.2
  have hroom' : 17976931348623156 * (((2 : ℚ) ^ 53 * 100 + 91) * 10 ^ 292) <
      overflowLimit * (2 ^ 53 * 100) := by exact_mod_cast hroom
  have herror := tenPow_error (k := 292) (by decide)
  have habove := le_abs_self (tenPow 292 - 10 ^ 292)
  have hpos : 0 < tenPow 292 := zero_lt_one.trans_le (one_le_tenPow 292)
  have hle := mul_le_mul_of_nonneg_right (valueOf_codeOf_le_of_le h) hpos.le
  generalize (10 : ℚ) ^ 292 = ten at hroom' herror habove
  linarith

end TableQuery.Magnitude
