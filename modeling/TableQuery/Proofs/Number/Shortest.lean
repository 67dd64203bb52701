import TableQuery.Proofs.Number.Arithmetic
import TableQuery.Proofs.Number.Digits
import TableQuery.Proofs.Number.PowersOfTen

/-!
# The search for the shortest decimal

On the grid of seventeen digits the neighbours of a magnitude are less than the
step below it apart, so one of them reads back and the search always ends there
at the latest. What is picked is therefore a decimal of seventeen digits at most
that reads back, and never the exact value that the search falls back to.
-/

namespace TableQuery.Magnitude

/-! ## The number of digits -/

theorem digitCount_spec {n : Nat} (hpos : n ≠ 0) (hlog : n.log2 ≤ 10000) :
    10 ^ (digitCount n - 1) ≤ n ∧ n < 10 ^ digitCount n := by
  have hself := Nat.log2_self_le hpos
  have hbits : n < 2 ^ (n.log2 + 1) := Nat.lt_log2_self
  have hratio : 10 ^ 205 ≤ 2 ^ 681 := by
    rw [Nat.pow_mul 2 227 3]
    norm_num
  have hleast : 10 ^ (n.log2 * 1233 / 4096) ≤ n :=
    (pow_le_pow_of_ratio (p := 681) (q := 205) (by decide) (by decide) hratio (by omega)).trans
      hself
  have hmost : n < 10 ^ (n.log2 * 1233 / 4096 + 2) :=
    hbits.trans_le (two_pow_le_ten_pow (by omega))
  rw [digitCount]
  split
  · next h => exact ⟨hleast, h⟩
  · next h => exact ⟨Nat.le_of_not_lt h, hmost⟩

/-! ## The exact value -/

theorem units_pos {m : Magnitude} (h : m.code ≠ 0) : 0 < m.units := by
  have hzero : unitsOf 0 = 0 := rfl
  rw [units, ← hzero]
  exact unitsOf_strictMono (Nat.pos_of_ne_zero h)

theorem units_lt {m : Magnitude} (h : m.isFinite) : m.units < 2 ^ 2098 := by
  have htop : unitsOf top = 2 ^ 2098 := by
    have hrun := unitsOf_run (e := 2045) (m := 2 * runLength) (.inr (by omega)) le_rfl
    have hcode : top = 2045 * runLength + 2 * runLength := by decide
    have hsplit : 2 ^ 2098 = 2 * 2 ^ 52 * 2 ^ 2045 := by
      rw [← Nat.pow_succ', ← Nat.pow_add]
    rw [hcode, hrun, hsplit, runLength_eq]
  rw [units, ← htop]
  exact unitsOf_strictMono (isFinite_iff.mp h)

theorem exactCoefficient_bounds {m : Magnitude} (hpos : m.code ≠ 0) (hfinite : m.isFinite) :
    10 ^ 750 ≤ m.exactCoefficient ∧ m.exactCoefficient < 10 ^ 1383 := by
  have hlow : 10 ^ 750 ≤ Nat.pow 5 1074 :=
    pow_le_pow_of_ratio (p := 63) (q := 44) (by decide) (by decide) (by norm_num) (by decide)
  have hhigh : 2 ^ 2098 * Nat.pow 5 1074 < 10 ^ 1383 := by
    have hbinary : 2 ^ 2098 = 2 ^ 1024 * 2 ^ 1074 := by rw [← Nat.pow_add]
    have hdecimal : 10 ^ 1383 = 10 ^ 309 * 10 ^ 1074 := by rw [← Nat.pow_add]
    have hten : 10 ^ 1074 = 2 ^ 1074 * 5 ^ 1074 := by rw [← Nat.mul_pow]
    have hpower : 2 ^ 1024 < 10 ^ 309 :=
      (Nat.pow_lt_pow_right (by decide) (Nat.lt_succ_self 1024)).trans_le
        (two_pow_le_ten_pow (by decide))
    rw [Nat.pow_eq, hbinary, Nat.mul_assoc, ← hten, hdecimal]
    exact Nat.mul_lt_mul_of_pos_right hpower (Nat.pow_pos (by decide))
  exact ⟨hlow.trans (Nat.le_mul_of_pos_left _ (units_pos hpos)),
    (Nat.mul_le_mul_right _ (units_lt hfinite).le).trans_lt hhigh⟩

theorem lt_of_ten_pow_lt {a b : Nat} (h : 10 ^ a < 10 ^ b) : a < b :=
  (Nat.pow_lt_pow_iff_right (by decide)).mp h

/-- The exact value has between 751 and 1383 digits, in steps of `10 ^ (-1074)`. -/
theorem digitCount_exactCoefficient {m : Magnitude} (hpos : m.code ≠ 0) (hfinite : m.isFinite) :
    ∃ width, digitCount m.exactCoefficient = width ∧ 751 ≤ width ∧ width ≤ 1383 ∧
      10 ^ (width - 1) ≤ m.exactCoefficient ∧ m.exactCoefficient < 10 ^ width := by
  obtain ⟨hlow, hhigh⟩ := exactCoefficient_bounds hpos hfinite
  have hne : m.exactCoefficient ≠ 0 := by
    intro hzero
    rw [hzero] at hlow
    exact absurd hlow (Nat.not_le.mpr (Nat.pow_pos (by decide)))
  have hlog : m.exactCoefficient.log2 ≤ 10000 := by
    have htwo : 10 ^ 1383 ≤ 2 ^ 10000 :=
      pow_le_pow_of_ratio (p := 4) (q := 1) (by decide) (by decide) (by decide) (by decide)
    exact ((Nat.log2_lt hne).mpr (hhigh.trans_le htwo)).le
  obtain ⟨hleast, hmost⟩ := digitCount_spec hne hlog
  refine ⟨_, rfl, ?_, ?_, hleast, hmost⟩
  · exact lt_of_ten_pow_lt (hlow.trans_lt hmost)
  · have := lt_of_ten_pow_lt (hleast.trans_lt hhigh)
    omega

/-- A whole number of `2 ^ (-n)` is a whole number of `10 ^ (-n)`. -/
theorem mul_five_pow_mul_ten_zpow (u n : Nat) {e : ℤ} (he : e = -n) :
    ((u * Nat.pow 5 n : Nat) : ℚ) * (10 : ℚ) ^ e = u / (1 <<< n : Nat) := by
  have hten : (10 : ℚ) ^ n = 2 ^ n * 5 ^ n := by
    rw [← mul_pow]
    norm_num
  rw [he, zpow_neg, zpow_natCast, hten, Nat.pow_eq, Nat.one_shiftLeft]
  push_cast
  field_simp

theorem exactCoefficient_mul (m : Magnitude) :
    m.exactCoefficient * (10 : ℚ) ^ (-1074 : ℤ) = m.value := by
  rw [exactCoefficient, mul_five_pow_mul_ten_zpow m.units 1074 (e := -1074) rfl]
  rfl

/-! ## One grid -/

/-- What is less than half a step away has the code of `m`. -/
theorem codeOf_eq_of_close {m : Magnitude} {below : Nat} (hcode : m.code = below + 1) {x : ℚ}
    (h : 2 * |x - m.value| * perOne < gap below) : 0 < x ∧ codeOf x = m.code := by
  have hself : valueOf m.code = m.value := rfl
  have hvalue : m.value * perOne = valueOf below * perOne + gap below := by
    rw [← hself, hcode, valueOf_succ_mul_perOne]
  have hnext := valueOf_succ_mul_perOne m.code
  rw [hself] at hnext
  have hgap : (gap below : ℚ) ≤ gap m.code := by exact_mod_cast gap_mono (by omega)
  have hupper : 2 * (x - m.value) * perOne < gap below :=
    lt_of_le_of_lt (mul_le_mul_of_nonneg_right
      (mul_le_mul_of_nonneg_left (le_abs_self _) (by norm_num)) perOne_pos'.le) h
  have hlower : 2 * (m.value - x) * perOne < gap below :=
    lt_of_le_of_lt (mul_le_mul_of_nonneg_right
      (mul_le_mul_of_nonneg_left ((neg_sub x m.value).symm ▸ neg_le_abs _) (by norm_num))
      perOne_pos'.le) h
  have hpos : 0 < x := by
    have hbelow := mul_nonneg (valueOf_nonneg below) perOne_pos'.le
    have hgap' : (0 : ℚ) < gap below := by exact_mod_cast gap_pos below
    refine pos_of_mul_pos_left ?_ perOne_pos'.le
    linarith
  refine ⟨hpos, codeOf_eq_of_lt hpos.le ?_ ?_⟩
  · intro b hb
    obtain rfl : b = below := by omega
    refine lt_of_mul_lt_mul_right ?_ perOne_pos'.le
    rw [hself]
    linarith
  · refine lt_of_mul_lt_mul_right ?_ perOne_pos'.le
    rw [hself]
    linarith

/-- Decimals that are less than half a step away read back. -/
theorem ofDecimal_eq_of_close {m : Magnitude} {below : Nat} (hcode : m.code = below + 1)
    {coefficient : Nat} {exponent : Int} (hlow : -400 ≤ exponent)
    (hhigh : exponent ≤ 310)
    (h : 2 * |(coefficient : ℚ) * 10 ^ exponent - m.value| * perOne < gap below) :
    ofDecimal coefficient exponent = m := by
  obtain ⟨hpos, hcodeOf⟩ := codeOf_eq_of_close hcode h
  have hne : coefficient ≠ 0 := by
    rintro rfl
    rw [Nat.cast_zero, zero_mul] at hpos
    exact hpos.false
  refine code_injective ?_
  rw [code_ofDecimal hne hlow hhigh, hcodeOf]
  exact Nat.min_eq_left m.code_le_top

/-- One of the two neighbours is picked, and it is one that reads back. -/
theorem readingBack?_eq_some {tie : Tie} {m : Magnitude} {dropped coefficient : Nat} {exponent : Int}
    (h : m.readingBack? tie dropped = some (coefficient, exponent)) :
    ofDecimal coefficient exponent = m ∧ exponent = dropped - 1074 ∧
      coefficient ≤ m.exactCoefficient / 10 ^ dropped + 1 := by
  rw [readingBack?, Nat.pow_eq] at h
  split at h
  · next hdown =>
    split at h
    · next hup =>
      rw [Bool.and_eq_true, decide_eq_true_iff] at hup
      obtain ⟨rfl, rfl⟩ := Prod.mk.inj (Option.some.inj h)
      exact ⟨hup.2, rfl, le_rfl⟩
    · obtain ⟨rfl, rfl⟩ := Prod.mk.inj (Option.some.inj h)
      exact ⟨hdown, rfl, Nat.le_succ _⟩
  · split at h
    · next hup =>
      obtain ⟨rfl, rfl⟩ := Prod.mk.inj (Option.some.inj h)
      exact ⟨hup, rfl, le_rfl⟩
    · cases h

/-- A grid has a hit if one of the neighbours of the exact value reads back. -/
theorem isSome_readingBack? {tie : Tie} {m : Magnitude} {dropped : Nat}
    (h : ofDecimal (m.exactCoefficient / 10 ^ dropped) (dropped - 1074) = m ∨
      ofDecimal (m.exactCoefficient / 10 ^ dropped + 1) (dropped - 1074) = m) :
    (m.readingBack? tie dropped).isSome := by
  rw [readingBack?, Nat.pow_eq]
  split
  · split <;> rfl
  · next hdown =>
    rw [if_pos (h.resolve_left hdown)]
    rfl

/-- Distances on a grid, in the steps of the exact value. -/
theorem close_of_close_exactCoefficient {m : Magnitude} {coefficient dropped below : Nat}
    (h : 2 * |(coefficient * 10 ^ dropped : ℚ) - m.exactCoefficient| <
      ((gap below * Nat.pow 5 1074 : Nat) : ℚ)) :
    2 * |(coefficient : ℚ) * 10 ^ (dropped - 1074 : ℤ) - m.value| * perOne < gap below := by
  obtain ⟨unit, hunit⟩ : ∃ unit, (10 : ℚ) ^ (-1074 : ℤ) = unit := ⟨_, rfl⟩
  have hpos : 0 < unit := by
    rw [← hunit]
    exact zpow_pos (by norm_num) _
  have hgap : ((gap below * Nat.pow 5 1074 : Nat) : ℚ) * unit * perOne = gap below := by
    have hsteps := mul_five_pow_mul_ten_zpow (gap below) 1074 (e := -1074) rfl
    rw [← hunit, hsteps]
    exact div_mul_cancel₀ _ perOne_pos'.ne'
  have hgrid : (coefficient : ℚ) * 10 ^ (dropped - 1074 : ℤ) - m.value =
      (coefficient * 10 ^ dropped - m.exactCoefficient) * unit := by
    rw [← exactCoefficient_mul, sub_eq_add_neg (dropped : ℤ), zpow_add₀ (by norm_num),
      zpow_natCast, hunit]
    ring
  calc 2 * |(coefficient : ℚ) * 10 ^ (dropped - 1074 : ℤ) - m.value| * perOne
      = 2 * |(coefficient * 10 ^ dropped : ℚ) - m.exactCoefficient| * (unit * perOne) := by
        rw [hgrid, abs_mul, abs_of_pos hpos]
        ring
    _ < _ * (unit * perOne) := mul_lt_mul_of_pos_right h (mul_pos hpos perOne_pos')
    _ = gap below := by rw [← mul_assoc, hgap]

/-- The grid of seventeen digits is finer than the step below `m`. -/
theorem ten_pow_lt_step {m : Magnitude} {below dropped : Nat} (hbelow : m.code = below + 1)
    (hleast : 10 ^ (16 + dropped) ≤ m.exactCoefficient) :
    10 ^ dropped < gap below * Nat.pow 5 1074 := by
  have hsteps : m.exactCoefficient ≤ 2 ^ 53 * (gap below * Nat.pow 5 1074) := by
    have hunits : m.units ≤ 2 ^ 53 * gap below := by
      rw [units, hbelow]
      exact unitsOf_succ_le below
    rw [exactCoefficient, ← Nat.mul_assoc]
    exact Nat.mul_le_mul_right _ hunits
  rw [Nat.pow_add] at hleast
  have hpositive : 0 < 10 ^ dropped := Nat.pow_pos (by decide)
  generalize gap below * Nat.pow 5 1074 = step at hsteps ⊢
  omega

/-- One of the two neighbours on a grid is at most half a step away. -/
theorem near_or_near_succ (x : Nat) {step : Nat} (hstep : 0 < step) :
    2 * |((x / step : Nat) * step : ℚ) - x| ≤ step ∨
      2 * |((x / step + 1 : Nat) * step : ℚ) - x| ≤ step := by
  have hsplit := Nat.div_add_mod' x step
  have hmod := Nat.mod_lt x hstep
  generalize x / step = down at hsplit ⊢
  generalize x % step = excess at hsplit hmod
  have hexact : (x : ℚ) = down * step + excess := by exact_mod_cast hsplit.symm
  have hexcess : (excess : ℚ) ≤ step := Nat.cast_le.mpr hmod.le
  rcases Nat.le_total (2 * excess) step with hnear | hfar
  · have hnear' : (2 * excess : ℚ) ≤ step := by exact_mod_cast hnear
    refine .inl ?_
    rw [hexact, sub_add_cancel_left, abs_neg, abs_of_nonneg (Nat.cast_nonneg _)]
    exact hnear'
  · have hfar' : (step : ℚ) ≤ 2 * excess := by exact_mod_cast hfar
    refine .inr ?_
    have hdistance : ((down + 1 : Nat) : ℚ) * step - x = step - excess := by
      rw [hexact]
      push_cast
      ring
    rw [hdistance, abs_of_nonneg (by linarith)]
    linarith

/-- Seventeen digits suffice. -/
theorem isSome_readingBack?_seventeen (tie : Tie) {m : Magnitude} (hpos : m.code ≠ 0)
    (hfinite : m.isFinite) :
    (m.readingBack? tie (digitCount m.exactCoefficient - 17)).isSome := by
  obtain ⟨width, hwidth, hlow, hhigh, hleast, -⟩ := digitCount_exactCoefficient hpos hfinite
  obtain ⟨below, hbelow⟩ : ∃ below, m.code = below + 1 := ⟨m.code - 1, by omega⟩
  obtain ⟨dropped, rfl⟩ : ∃ dropped, width = dropped + 17 := ⟨width - 17, by omega⟩
  have hexponent : dropped + 17 - 1 = 16 + dropped := by omega
  rw [hexponent] at hleast
  have hstep := ten_pow_lt_step hbelow hleast
  have hclose : ∀ coefficient : Nat,
      2 * |(coefficient * (10 ^ dropped : Nat) : ℚ) - m.exactCoefficient| ≤ (10 ^ dropped : Nat) →
      ofDecimal coefficient (dropped - 1074) = m := by
    intro coefficient h
    refine ofDecimal_eq_of_close hbelow (by omega) (by omega) (close_of_close_exactCoefficient ?_)
    rw [Nat.cast_pow, Nat.cast_ofNat] at h
    exact h.trans_lt (by exact_mod_cast hstep)
  rw [hwidth, Nat.add_sub_cancel]
  have hgrid : 0 < 10 ^ dropped := Nat.pow_pos (by decide)
  exact isSome_readingBack?
    ((near_or_near_succ m.exactCoefficient hgrid).imp (hclose _) (hclose _))

/-! ## The search -/

/-- The shortest decimal reads back, and it has at most seventeen digits. -/
theorem shortest_spec (tie : Tie) {m : Magnitude} (hpos : m.code ≠ 0) (hfinite : m.isFinite) :
    ∃ coefficient exponent, m.shortest tie = (coefficient, exponent) ∧
      codeOf (coefficient * 10 ^ exponent) = m.code ∧
      0 < coefficient ∧ coefficient ≤ 10 ^ 17 ∧ -340 ≤ exponent ∧ exponent ≤ 308 := by
  obtain ⟨width, hwidth, hlow, hhigh, -, hmost⟩ := digitCount_exactCoefficient hpos hfinite
  have hlast := isSome_readingBack?_seventeen tie hpos hfinite
  rw [hwidth] at hlast
  have hsome : ((List.range 17).findSome? fun n =>
      m.readingBack? tie (width - (n + 1))).isSome := by
    rw [List.findSome?_isSome_iff]
    exact ⟨16, by simp, hlast⟩
  obtain ⟨⟨coefficient, exponent⟩, hfound⟩ := Option.isSome_iff_exists.mp hsome
  obtain ⟨n, hn, hhit⟩ := List.exists_of_findSome?_eq_some hfound
  rw [List.mem_range] at hn
  obtain ⟨hread, rfl, hle⟩ := readingBack?_eq_some hhit
  refine ⟨coefficient, _, ?_, codeOf_eq_of_ofDecimal_eq hread hpos hfinite, ?_, ?_, by omega,
    by omega⟩
  · rw [shortest, hwidth, hfound]
    rfl
  · refine Nat.pos_of_ne_zero ?_
    rintro rfl
    have hzero : ofDecimal 0 ((width - (n + 1) : Nat) - 1074) = zero := by simp [ofDecimal]
    rw [hzero] at hread
    exact hpos (congrArg code hread).symm
  · have hdigits : m.exactCoefficient / 10 ^ (width - (n + 1)) < 10 ^ (n + 1) := by
      rw [Nat.div_lt_iff_lt_mul (Nat.pow_pos (by decide)), ← Nat.pow_add]
      have hexponent : n + 1 + (width - (n + 1)) = width := by omega
      rw [hexponent]
      exact hmost
    have hseventeen : 10 ^ (n + 1) ≤ 10 ^ 17 := Nat.pow_le_pow_right (by decide) (by omega)
    omega

/-- The significant digits are those of an integer with at most seventeen digits. -/
theorem shortestDigits_spec (tie : Tie) {m : Magnitude} (hpos : m.code ≠ 0)
    (hfinite : m.isFinite) :
    ∃ (s : Nat) (e : Int),
      m.shortestDigits tie = ⟨Nat.toDigits 10 s, e + (Nat.toDigits 10 s).length - 1⟩ ∧
      codeOf (s * 10 ^ e) = m.code ∧ 0 < s ∧ s ≤ 10 ^ 17 ∧ -340 ≤ e := by
  obtain ⟨c, e, hshortest, hcode, hc, hc', hlow, -⟩ := shortest_spec tie hpos hfinite
  obtain ⟨s, zeros, hs, rfl, hdigits⟩ := Digits.ofDecimal_eq hc e
  refine ⟨s, e + zeros, ?_, ?_, hs, ?_, by omega⟩
  · rw [shortestDigits, hshortest]
    exact hdigits
  · rw [← hcode, zpow_add₀ (by norm_num), zpow_natCast]
    push_cast
    congr 1
    ring
  · exact (Nat.le_mul_of_pos_right s (Nat.pow_pos (by decide))).trans hc'

end TableQuery.Magnitude
