import TableQuery.Proofs.Number.PowersOfTen

/-!
# Rounded products and quotients with powers of ten

Scaling an integer by a power of ten rounds the integer, the power of ten and
the result. The first two errors leave the exact result so close that the last
rounding ends at most two places away. A division by more than `10 ^ 308` is
done in two steps. Its first result is rounded as well, which would be too much
if the errors were the worst ones at the same time; they never are, because
`10 ^ 308` is close to a power of two.
-/

namespace TableQuery.Magnitude

/-! ## Relative errors -/

theorem abs_mul_sub_mul_le {a b x y α β : ℚ} (hx : 0 ≤ x) (hy : 0 ≤ y) (hα : 0 ≤ α)
    (ha : |a - x| ≤ α * x) (hb : |b - y| ≤ β * y) :
    |a * b - x * y| ≤ (α + β + α * β) * (x * y) := by
  have hsplit : a * b - x * y = (a - x) * (b - y) + (x * (b - y) + (a - x) * y) := by ring
  have hboth : |(a - x) * (b - y)| ≤ α * x * (β * y) := by
    rw [abs_mul]
    exact mul_le_mul ha hb (abs_nonneg _) (mul_nonneg hα hx)
  have hfirst : |x * (b - y)| ≤ x * (β * y) := by
    rw [abs_mul, abs_of_nonneg hx]
    exact mul_le_mul_of_nonneg_left hb hx
  have hsecond : |(a - x) * y| ≤ α * x * y := by
    rw [abs_mul, abs_of_nonneg hy]
    exact mul_le_mul_of_nonneg_right ha hy
  calc |a * b - x * y| ≤ |(a - x) * (b - y)| + (|x * (b - y)| + |(a - x) * y|) := by
        rw [hsplit]
        exact (abs_add_le _ _).trans (add_le_add_right (abs_add_le _ _) _)
    _ ≤ _ := by linarith

theorem abs_div_sub_div_le {a b x y α β : ℚ} (hx : 0 ≤ x) (hy : 0 < y) (hβ : β < 1)
    (ha : |a - x| ≤ α * x) (hb : |b - y| ≤ β * y) :
    |a / b - x / y| ≤ (α + β) / (1 - β) * (x / y) := by
  have hbelow : (1 - β) * y ≤ b := by
    have := (abs_le.mp hb).1
    linarith
  have hpos : 0 < (1 - β) * y := mul_pos (by linarith) hy
  have hb' : 0 < b := hpos.trans_le hbelow
  have hsplit : a / b - x / y = ((a - x) * y - x * (b - y)) / (b * y) := by
    field_simp
    ring
  have hnumerator : |(a - x) * y - x * (b - y)| ≤ (α + β) * (x * y) := by
    have hfirst : |(a - x) * y| ≤ α * x * y := by
      rw [abs_mul, abs_of_pos hy]
      exact mul_le_mul_of_nonneg_right ha hy.le
    have hsecond : |x * (b - y)| ≤ x * (β * y) := by
      rw [abs_mul, abs_of_nonneg hx]
      exact mul_le_mul_of_nonneg_left hb hx
    have := abs_sub ((a - x) * y) (x * (b - y))
    linarith
  have hnonneg : 0 ≤ (α + β) * x := by
    have hle := (abs_nonneg _).trans hnumerator
    rw [← mul_assoc] at hle
    exact nonneg_of_mul_nonneg_left hle hy
  calc |a / b - x / y| = |(a - x) * y - x * (b - y)| / (b * y) := by
        rw [hsplit, abs_div, abs_of_pos (mul_pos hb' hy)]
    _ ≤ (α + β) * (x * y) / (b * y) := div_le_div_of_nonneg_right hnumerator (mul_pos hb' hy).le
    _ = (α + β) * x / b := by field_simp
    _ ≤ (α + β) * x / ((1 - β) * y) := div_le_div_of_nonneg_left hnonneg hpos hbelow
    _ = (α + β) / (1 - β) * (x / y) := by field_simp

/-- How far two values are apart, by their multiples and by the error of the factor. -/
theorem abs_sub_mul_le {v w p : ℚ} (hp : 0 < p) (hw : 0 ≤ w) (q : ℚ) :
    |v - w| * p ≤ |v * p - w * q| + w * |p - q| := by
  have hsplit : (v - w) * p = (v * p - w * q) - w * (p - q) := by ring
  calc |v - w| * p = |(v * p - w * q) - w * (p - q)| := by
        rw [← hsplit, abs_mul, abs_of_pos hp]
    _ ≤ |v * p - w * q| + |w * (p - q)| := abs_sub _ _
    _ = |v * p - w * q| + w * |p - q| := by rw [abs_mul, abs_of_nonneg hw]

/-- A relative error that is a little less than two parts of `2 ^ 53` is small on either side. -/
theorem abs_sub_mul_le_min {t y : ℚ} (hy : 0 ≤ y) (h : |t - y| * (2 ^ 53 * 10000) ≤ 19999 * y) :
    |t - y| * 2 ^ 52 ≤ min y t := by
  have hbelow : y - |t - y| ≤ t := by
    have := neg_abs_le (t - y)
    linarith
  refine le_min ?_ ?_ <;> linarith

/-! ## One step -/

variable {n k : Nat}

theorem runLength_le_natCast_mul_perOne (hn : 0 < n) : (runLength : ℚ) ≤ n * perOne := by
  have hone : runLength ≤ perOne := by
    rw [runLength_eq, perOne_eq]
    exact Nat.pow_le_pow_right (by decide) (by decide)
  exact_mod_cast hone.trans (Nat.le_mul_of_pos_left _ hn)

/-- The error of rounding an integer. -/
theorem abs_valueOf_codeOf_natCast_sub_le (hn : 0 < n) :
    |valueOf (codeOf n) - n| ≤ 1 / 2 ^ 53 * n := by
  have herror := abs_valueOf_codeOf_sub_le (x := n) (Nat.cast_nonneg n)
    (runLength_le_natCast_mul_perOne hn)
  linarith

theorem abs_tenPow_sub_le (hk : k ≤ 308) : |tenPow k - 10 ^ k| ≤ 91 / (2 ^ 53 * 100) * 10 ^ k := by
  have herror := tenPow_error hk
  linarith

theorem mul_tenPow_error (hn : 0 < n) (hk : k ≤ 308) :
    |valueOf (codeOf n) * tenPow k - n * 10 ^ k| * (2 ^ 53 * 100) ≤ 192 * (n * 10 ^ k) := by
  have herror := abs_mul_sub_mul_le (Nat.cast_nonneg n) (by positivity : (0 : ℚ) ≤ 10 ^ k)
    (by norm_num) (abs_valueOf_codeOf_natCast_sub_le hn) (abs_tenPow_sub_le hk)
  have hy : (0 : ℚ) ≤ n * 10 ^ k := by positivity
  have hrate : (1 / 2 ^ 53 + 91 / (2 ^ 53 * 100) + 1 / 2 ^ 53 * (91 / (2 ^ 53 * 100)) : ℚ) *
      (n * 10 ^ k) ≤ 192 / (2 ^ 53 * 100) * (n * 10 ^ k) :=
    mul_le_mul_of_nonneg_right (by norm_num) hy
  linarith

theorem div_tenPow_error (hn : 0 < n) (hk : k ≤ 308) :
    |valueOf (codeOf n) / tenPow k - n / 10 ^ k| * (2 ^ 53 * 100) ≤ 192 * (n / 10 ^ k) := by
  have herror := abs_div_sub_div_le (Nat.cast_nonneg n) (by positivity : (0 : ℚ) < 10 ^ k)
    (by norm_num) (abs_valueOf_codeOf_natCast_sub_le hn) (abs_tenPow_sub_le hk)
  have hy : (0 : ℚ) ≤ n / 10 ^ k := by positivity
  have hrate : ((1 / 2 ^ 53 + 91 / (2 ^ 53 * 100)) / (1 - 91 / (2 ^ 53 * 100)) : ℚ) *
      (n / 10 ^ k) ≤ 192 / (2 ^ 53 * 100) * (n / 10 ^ k) :=
    mul_le_mul_of_nonneg_right (by norm_num) hy
  linarith

/-- Two values whose difference is a little less than two parts of `2 ^ 53` are rounded to codes
that are at most two apart. -/
theorem codeOf_near_of_error {t y : ℚ} (ht : 0 ≤ t) (hy : 0 ≤ y)
    (h : |t - y| * (2 ^ 53 * 10000) ≤ 19999 * y) :
    codeOf t ≤ codeOf y + 2 ∧ codeOf y ≤ codeOf t + 2 :=
  codeOf_near hy ht (.inr (abs_sub_mul_le_min hy h))

/-! ## Two steps -/

/-- The last power of ten in range is between `10 / 9` and `6 / 5` of a power of two. -/
theorem tenPow_last_bounds :
    (10 : ℚ) * 2 ^ 1023 ≤ 9 * tenPow 308 ∧ 5 * tenPow 308 ≤ (6 : ℚ) * 2 ^ 1023 := by
  have hlow : 10 * 2 ^ 1023 * (2 ^ 53 * 1000) + 9 * 99 * 10 ^ 308 ≤
      9 * 10 ^ 308 * (2 ^ 53 * 1000) := by decide +kernel
  have hhigh : 5 * 10 ^ 308 * (2 ^ 53 * 1000) + 5 * 99 * 10 ^ 308 ≤
      6 * 2 ^ 1023 * (2 ^ 53 * 1000) := by decide +kernel
  have hlow' : (10 : ℚ) * 2 ^ 1023 * (2 ^ 53 * 1000) + 9 * 99 * 10 ^ 308 ≤
      9 * 10 ^ 308 * (2 ^ 53 * 1000) := by exact_mod_cast hlow
  have hhigh' : (5 : ℚ) * 10 ^ 308 * (2 ^ 53 * 1000) + 5 * 99 * 10 ^ 308 ≤
      6 * 2 ^ 1023 * (2 ^ 53 * 1000) := by exact_mod_cast hhigh
  have herror := tenPow_error_last
  generalize (10 : ℚ) ^ 308 = ten at hlow' hhigh' herror
  generalize (2 : ℚ) ^ 1023 = two at hlow' hhigh'
  obtain ⟨hbelow, habove⟩ := abs_le.mp (le_refl |tenPow 308 - ten|)
  constructor <;> linarith

/-- The relations between the steps of an integer and of its quotient, in units. The integer is
`s`, its step `a` and what it is rounded to `f`; the quotient is `w₀`, its step `b` and what it is
rounded to `w`; `p` is the rounded power `q` of ten, and `two` the power of two close to it. -/
theorem two_step_error {s f a w₀ w b p q two W : ℚ} (hq : 0 < q) (hW : 0 ≤ W) (hb : 0 ≤ b)
    (hlow : 10 * two ≤ 9 * p) (hhigh : 5 * p ≤ 6 * two) (htwo : 0 < two)
    (hp : |p - q| * (2 ^ 53 * 1000) ≤ 99 * q) (hs : s = W * q) (hf : f = w₀ * p)
    (ha : 2 ^ 52 * a ≤ s) (hfs : 2 * |f - s| ≤ a) (hb' : 2 ^ 52 * b ≤ w₀)
    (hww : 2 * |w - w₀| ≤ b) (hsteps : a ≤ b * two ∨ 2 * (b * two) ≤ a) :
    |w - W| * (2 ^ 53 * 10000) ≤ 19999 * W := by
  have hp' : 0 < p := by linarith
  have hsplit : |w - W| * p ≤ |w - w₀| * p + |f - s| + W * |p - q| := by
    have hbefore := abs_sub_mul_le hp' hW q (v := w₀)
    have hround := mul_le_mul_of_nonneg_right (abs_sub_le w w₀ W) hp'.le
    rw [← hf, ← hs] at hbefore
    linarith
  have hqp : q * (2 ^ 53 * 1000 - 99) ≤ p * (2 ^ 53 * 1000) := by
    have := (abs_le.mp (le_refl |p - q|)).1
    linarith
  have hpq : |p - q| * (2 ^ 53 * 10000) ≤ 991 * p := by linarith
  have hlast := mul_le_mul_of_nonneg_left hpq hW
  have hwp : 2 * (|w - w₀| * p) ≤ b * p := by
    have := mul_le_mul_of_nonneg_right hww hp'.le
    linarith
  have hWq : W * q * (2 ^ 53 * 1000 - 99) ≤ W * p * (2 ^ 53 * 1000) := by
    have := mul_le_mul_of_nonneg_left hqp hW
    linarith
  have hWp : 0 ≤ W * p := mul_nonneg hW hp'.le
  have hresult : |w - W| * p * (2 ^ 53 * 10000) ≤ 19999 * (W * p) := by
    rcases hsteps with hsteps | hsteps
    · -- The integer is at least `10 / 9` of `2 ^ 52` steps.
      have hbp : b * (10 * two) ≤ b * (9 * p) := mul_le_mul_of_nonneg_left hlow hb
      have hw₀p : 2 ^ 52 * b * p ≤ w₀ * p := mul_le_mul_of_nonneg_right hb' hp'.le
      have hfs' := (abs_le.mp (le_refl |f - s|)).2
      linarith
    · -- The quotient is rounded relatively well.
      have hbp : b * (5 * p) ≤ b * (6 * two) := mul_le_mul_of_nonneg_left hhigh hb
      linarith
  have hcancel : |w - W| * (2 ^ 53 * 10000) * p ≤ 19999 * W * p := by linarith
  exact le_of_mul_le_mul_right hcancel hp'

/-- What an integer is rounded to after the first of two divisions. -/
def firstQuotient (n : Nat) : ℚ := valueOf (codeOf (valueOf (codeOf n) / tenPow 308))

theorem abs_sub_mul_perOne (x y : ℚ) : |x * perOne - y * perOne| = |x - y| * perOne := by
  rw [← sub_mul, abs_mul, abs_of_pos perOne_pos']

/-- Of two steps the first is at most the second, shifted, or at least twice that. -/
theorem step_le_or_two_mul_le (e e' shift : Nat) :
    (2 : ℚ) ^ e ≤ 2 ^ e' * 2 ^ shift ∨ 2 * (2 ^ e' * 2 ^ shift) ≤ (2 : ℚ) ^ e := by
  rw [← pow_add, ← pow_succ']
  rcases Nat.lt_or_ge (e' + shift) e with hlt | hle
  · exact .inr (pow_le_pow_right₀ (by norm_num) hlt)
  · exact .inl (pow_le_pow_right₀ (by norm_num) hle)

/-- A quotient so small that it is rounded to units is at most two of them off. -/
theorem units_error {w w₀ W : ℚ} (hexact : |w₀ - W| ≤ 5 / (4 * 2 ^ 53) * W)
    (hsmall : w₀ * perOne < 2 * 2 ^ 52) (hround : 2 * |w - w₀| * perOne ≤ 1) :
    |w - W| * perOne ≤ 2 := by
  have hperOne := perOne_pos'
  have hunits := mul_le_mul_of_nonneg_right hexact hperOne.le
  have hbelow : W * perOne - |w₀ - W| * perOne ≤ w₀ * perOne := by
    rw [← sub_mul]
    exact mul_le_mul_of_nonneg_right (by linarith [neg_abs_le (w₀ - W)]) hperOne.le
  have hboth : |w - W| * perOne ≤ |w - w₀| * perOne + |w₀ - W| * perOne := by
    rw [← add_mul]
    exact mul_le_mul_of_nonneg_right (abs_sub_le w w₀ W) hperOne.le
  linarith

/-- The error of the first quotient before it is rounded. -/
theorem natCast_div_tenPow_last_error (hn : 0 < n) {ten : ℚ} (hten : ten = 10 ^ 308) :
    |valueOf (codeOf n) / tenPow 308 - n / ten| ≤ 5 / (4 * 2 ^ 53) * (n / ten) := by
  have hlast := tenPow_error_last
  rw [← hten] at hlast
  have hpos : 0 < ten := by
    rw [hten]
    positivity
  have hlast' : |tenPow 308 - ten| ≤ 99 / (2 ^ 53 * 1000) * ten := by linarith
  refine (abs_div_sub_div_le (Nat.cast_nonneg n) hpos (by norm_num)
    (abs_valueOf_codeOf_natCast_sub_le hn) hlast').trans ?_
  exact mul_le_mul_of_nonneg_right (by norm_num) (div_nonneg (Nat.cast_nonneg n) hpos.le)

theorem firstQuotient_error (hn : 0 < n) {ten : ℚ} (hten : ten = 10 ^ 308) :
    |firstQuotient n - n / ten| * (2 ^ 53 * 10000) ≤ 19999 * (n / ten) ∨
      |firstQuotient n - n / ten| * perOne ≤ 2 := by
  have hlast := tenPow_error_last
  obtain ⟨hlow, hhigh⟩ := tenPow_last_bounds
  have hexact := natCast_div_tenPow_last_error hn hten
  have hp : 0 < tenPow 308 := zero_lt_one.trans_le (one_le_tenPow 308)
  have hpos : 0 < ten := by
    rw [hten]
    positivity
  rw [← hten] at hlast
  obtain ⟨e, hrun, -, hfs⟩ := codeOf_run (x := n) (Nat.cast_nonneg n)
  obtain ⟨e', hrun', hsmall, hww⟩ := codeOf_run (div_nonneg (valueOf_nonneg (codeOf n)) hp.le)
  have hsteps := step_le_or_two_mul_le e e' 1023
  have htwo : (0 : ℚ) < 2 ^ 1023 := by positivity
  rw [← firstQuotient] at hww
  generalize (2 : ℚ) ^ 1023 = two at hlow hhigh hsteps htwo
  generalize valueOf (codeOf n) = f at *
  generalize firstQuotient n = w at hww ⊢
  generalize tenPow 308 = p at *
  have hperOne := perOne_pos'
  rw [runLength_cast] at hrun hrun' hsmall
  rcases hrun' with rfl | hrun'
  · rw [pow_zero] at hww hsmall
    exact .inr (units_error hexact (by linarith) hww)
  · left
    have hlarge : (2 : ℚ) ^ 52 * 2 ^ e ≤ n * perOne := by
      rcases hrun with rfl | hrun
      · rw [pow_zero, mul_one, ← runLength_cast]
        exact runLength_le_natCast_mul_perOne hn
      · exact hrun
    have hs : n * (perOne : ℚ) = n / ten * perOne * ten := by field_simp
    have hf : f * (perOne : ℚ) = f / p * perOne * p := by field_simp
    have hW : 0 ≤ n / ten * perOne :=
      mul_nonneg (div_nonneg (Nat.cast_nonneg n) hpos.le) hperOne.le
    rw [mul_assoc, ← abs_sub_mul_perOne] at hfs hww
    have herror := two_step_error (w := w * perOne) hpos hW (by positivity) hlow hhigh htwo hlast
      hs hf hlarge hfs hrun' hww hsteps
    rw [abs_sub_mul_perOne] at herror
    refine le_of_mul_le_mul_right ?_ hperOne
    linarith

/-- A quotient that far below one has only few units. -/
theorem natCast_div_mul_perOne_le (hn : n ≤ 10 ^ 17) {ten : ℚ} (hten : ten = 10 ^ 308) :
    n / ten * perOne ≤ 2 ^ 40 * 10 ^ 23 := by
  have hnumeral : 10 ^ 17 * perOne ≤ 2 ^ 40 * 10 ^ 23 * 10 ^ 308 := by
    have hsplit : 2 ^ 1074 = 2 ^ 40 * 2 ^ 1034 := by rw [← Nat.pow_add]
    have hsplit' : 10 ^ 23 * 10 ^ 308 = 10 ^ 17 * 10 ^ 314 := by
      rw [← Nat.pow_add, ← Nat.pow_add]
    have hpower : 2 ^ 1034 ≤ 10 ^ 314 := two_pow_le_ten_pow (by decide)
    calc 10 ^ 17 * perOne = 2 ^ 40 * (10 ^ 17 * 2 ^ 1034) := by
          rw [perOne_eq, hsplit, Nat.mul_left_comm]
      _ ≤ 2 ^ 40 * (10 ^ 17 * 10 ^ 314) :=
          Nat.mul_le_mul_left _ (Nat.mul_le_mul_left _ hpower)
      _ = 2 ^ 40 * 10 ^ 23 * 10 ^ 308 := by rw [← hsplit', Nat.mul_assoc]
  have hpos : 0 < ten := by
    rw [hten]
    positivity
  have hle : (n * perOne : ℚ) ≤ 2 ^ 40 * 10 ^ 23 * ten := by
    rw [hten]
    exact_mod_cast (Nat.mul_le_mul_right _ hn).trans hnumeral
  rw [div_mul_eq_mul_div, div_le_iff₀ hpos]
  exact hle

/-- An exact second division only makes the error of the first one smaller. -/
theorem div_near_of_exact {w W K : ℚ} (hK : 10 ≤ K) (hw : 0 ≤ w) (hW : 0 ≤ W)
    (hfirst : |w - W| * (2 ^ 53 * 10000) ≤ 19999 * W ∨ |w - W| * perOne ≤ 2) :
    codeOf (w / K) ≤ codeOf (W / K) + 2 ∧ codeOf (W / K) ≤ codeOf (w / K) + 2 := by
  have hpos : 0 < K := by linarith
  have hdiff : |w / K - W / K| = |w - W| / K := by rw [← sub_div, abs_div, abs_of_pos hpos]
  rcases hfirst with hrelative | habsolute
  · refine codeOf_near_of_error (div_nonneg hw hpos.le) (div_nonneg hW hpos.le) ?_
    rw [hdiff, div_mul_eq_mul_div, ← mul_div_assoc]
    exact div_le_div_of_nonneg_right hrelative hpos.le
  · refine codeOf_near (div_nonneg hW hpos.le) (div_nonneg hw hpos.le) (.inl ?_)
    rw [hdiff, div_mul_eq_mul_div, div_le_one hpos]
    linarith

/-- A large second division leaves so few units that no error reaches one of them. -/
theorem div_near_of_few_units {w W q K : ℚ} (hK : 10 ^ 23 ≤ K) (hw : 0 ≤ w) (hW : 0 ≤ W)
    (hq : |q - K| * (2 ^ 53 * 100) ≤ 91 * K) (hfew : W * perOne ≤ 2 ^ 40 * 10 ^ 23)
    (hfirst : |w - W| * (2 ^ 53 * 10000) ≤ 19999 * W ∨ |w - W| * perOne ≤ 2) :
    codeOf (w / q) ≤ codeOf (W / K) + 2 ∧ codeOf (W / K) ≤ codeOf (w / q) + 2 := by
  have hpos : 0 < K := by linarith
  have hhalf : K ≤ 2 * q := by
    have := neg_abs_le (q - K)
    linarith
  have hqpos : 0 < q := by linarith
  have hquotient : 0 ≤ W / K := div_nonneg hW hpos.le
  have hperOne := perOne_pos'
  refine codeOf_near hquotient (div_nonneg hw hqpos.le) (.inl ?_)
  have hsplit := abs_sub_mul_le hqpos hquotient K (v := w / q)
  rw [div_mul_cancel₀ _ hqpos.ne', div_mul_cancel₀ _ hpos.ne'] at hsplit
  have hsecond : W / K * |q - K| * (2 ^ 53 * 100) ≤ 91 * W := by
    have hle := mul_le_mul_of_nonneg_left hq hquotient
    have hcancel : W / K * (91 * K) = 91 * W := by field_simp
    linarith
  refine le_of_mul_le_mul_right ?_ hqpos
  have hunits := mul_le_mul_of_nonneg_right hsplit hperOne.le
  have hsecond' := mul_le_mul_of_nonneg_right hsecond hperOne.le
  have hfirst' : |w - W| * perOne * (2 ^ 53 * 10000) ≤ 19999 * (W * perOne) ∨
      |w - W| * perOne ≤ 2 := by
    refine hfirst.imp_left fun hle => ?_
    have := mul_le_mul_of_nonneg_right hle hperOne.le
    linarith
  rcases hfirst' with hrelative | habsolute <;> linarith

theorem firstQuotient_div_tenPow_near (hn : 0 < n) (hn' : n ≤ 10 ^ 17) (hk : 0 < k)
    (hk' : k ≤ 308) {ten : ℚ} (hten : ten = 10 ^ 308) :
    codeOf (firstQuotient n / tenPow k) ≤ codeOf (n / ten / 10 ^ k) + 2 ∧
      codeOf (n / ten / 10 ^ k) ≤ codeOf (firstQuotient n / tenPow k) + 2 := by
  have hfirst := firstQuotient_error hn hten
  have hW : 0 ≤ n / ten := by
    rw [hten]
    positivity
  have hw : 0 ≤ firstQuotient n := valueOf_nonneg _
  rcases Nat.lt_or_ge 22 k with hlarge | hexact
  · exact div_near_of_few_units (pow_le_pow_right₀ (by norm_num) hlarge) hw hW (tenPow_error hk')
      (natCast_div_mul_perOne_le hn' hten) hfirst
  · rw [tenPow_eq hexact]
    exact div_near_of_exact (le_self_pow₀ (by norm_num) hk.ne') hw hW hfirst

end TableQuery.Magnitude
