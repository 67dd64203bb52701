import TableQuery.Proofs.Json.NumberText
import TableQuery.Proofs.Number.Range

/-!
# Numbers read from their significant digits

Scaling is a rounded multiplication or one or two rounded divisions. For the
significant digits of a finite magnitude it stays in range, and its result is at
most two places away from that magnitude. It is the magnitude itself if the
digits and the power of ten are both exact, as they are for short numbers.
-/

namespace TableQuery.Json.Numeral

open Magnitude

variable {n k : Nat}

/-! ## The steps of scaling -/

theorem powerOfTen_eq (hk : k ≤ 308) :
    ∃ p : Magnitude, powerOfTen k = .signed false p ∧ p.isFinite ∧ p.code ≠ 0 ∧
      p.value = tenPow k := by
  have hten : ((1 : Nat) : ℚ) * 10 ^ (k : ℤ) = 10 ^ k := by simp
  have hlt : codeOf ((10 : ℚ) ^ k) < top := by
    have hlimit := codeOf_natCast_lt_top (ten_pow_lt_overflowLimit hk)
    rwa [Nat.cast_pow, Nat.cast_ofNat] at hlimit
  have hcode : (ofDecimal 1 k).code = codeOf ((10 : ℚ) ^ k) := by
    rw [code_ofDecimal one_ne_zero (by omega) (by omega), hten, Nat.min_eq_left hlt.le]
  have hvalue : (ofDecimal 1 k).value = tenPow k := by rw [value, hcode, tenPow]
  refine ⟨ofDecimal 1 k, rfl, isFinite_iff.mpr (hcode ▸ hlt), ?_, hvalue⟩
  rw [← value_pos_iff, hvalue]
  exact zero_lt_one.trans_le (one_le_tenPow k)

theorem ofNat_eq (hn : n ≤ 10 ^ 17) :
    ∃ x : Magnitude, Number.ofNat n = .signed false x ∧ x.isFinite ∧
      x.code = codeOf n := by
  have hlt : codeOf (n : ℚ) < top :=
    codeOf_natCast_lt_top (hn.trans_lt (ten_pow_lt_overflowLimit (by decide)))
  have hcode : (Magnitude.ofNat n).code = codeOf n := by
    rw [code_ofNat, Nat.min_eq_left hlt.le]
  exact ⟨Magnitude.ofNat n, rfl, isFinite_iff.mpr (hcode ▸ hlt), hcode⟩

theorem scale_mul {x : Magnitude} (hx : x.isFinite) (hk : k ≤ 308)
    (h : codeOf (x.value * tenPow k) < top) (steps : Nat) :
    ∃ p : Magnitude, scale (steps + 1) (.signed false x) k = some (.signed false p) ∧
      p.isFinite ∧ p.code = codeOf (x.value * tenPow k) := by
  obtain ⟨t, ht, hfinite, -, hvalue⟩ := powerOfTen_eq hk
  obtain ⟨p, hp, hcode⟩ := mul_signed hx hfinite
  rw [hvalue, Nat.min_eq_left h.le] at hcode
  have hne : Number.signed false p ≠ .infinity := by
    intro heq
    have hinfinite : p = .infinity := (Number.signed.inj heq).2
    rw [hinfinite] at hcode
    exact h.ne hcode.symm
  refine ⟨p, ?_, isFinite_iff.mpr (hcode ▸ h), hcode⟩
  rw [scale, Int.natAbs_natCast, if_pos hk, if_pos (Int.natCast_nonneg k), ht, hp, if_neg hne]

theorem div_powerOfTen {x : Magnitude} (hx : x.isFinite) (hk : k ≤ 308) :
    ∃ p : Magnitude, Number.div (.signed false x) (powerOfTen k) = .signed false p ∧
      p.isFinite ∧ p.code = codeOf (x.value / tenPow k) := by
  obtain ⟨t, ht, hfinite, hpos, hvalue⟩ := powerOfTen_eq hk
  obtain ⟨p, hp, hcode⟩ := div_signed hx hfinite hpos
  have hlt : codeOf (x.value / tenPow k) < top := by
    have hle : codeOf (x.value / tenPow k) ≤ codeOf x.value :=
      codeOf_mono (div_nonneg x.value_nonneg (zero_le_one.trans (one_le_tenPow k)))
        (div_le_self x.value_nonneg (one_le_tenPow k))
    have hself : codeOf x.value = x.code := codeOf_valueOf x.code
    have hrange := isFinite_iff.mp hx
    omega
  rw [hvalue, Nat.min_eq_left hlt.le] at hcode
  exact ⟨p, by rw [ht, hp], isFinite_iff.mpr (hcode ▸ hlt), hcode⟩

theorem scale_div {x : Magnitude} (hx : x.isFinite) (hk : 0 < k) (hk' : k ≤ 308) (steps : Nat) :
    ∃ p : Magnitude, scale (steps + 1) (.signed false x) (-k) = some (.signed false p) ∧
      p.isFinite ∧ p.code = codeOf (x.value / tenPow k) := by
  obtain ⟨p, hp, hfinite, hcode⟩ := div_powerOfTen hx hk'
  refine ⟨p, ?_, hfinite, hcode⟩
  rw [scale, Int.natAbs_neg, Int.natAbs_natCast, if_pos hk', if_neg (by omega), hp]

/-- A division by more than `10 ^ 308` is done in two steps. -/
theorem scale_div_div {x : Magnitude} (hx : x.isFinite) (hpos : x.code ≠ 0) (hk : 0 < k)
    (hk' : k ≤ 308) (steps : Nat) :
    ∃ p : Magnitude, scale (steps + 2) (.signed false x) (-(308 + k : Nat)) =
        some (.signed false p) ∧
      p.isFinite ∧ p.code = codeOf (valueOf (codeOf (x.value / tenPow 308)) / tenPow k) := by
  obtain ⟨y, hy, hfinite, hcode⟩ := div_powerOfTen hx (le_refl 308)
  obtain ⟨p, hp, hfinite', hcode'⟩ := scale_div hfinite hk hk' steps
  rw [value, hcode] at hcode'
  refine ⟨p, ?_, hfinite', hcode'⟩
  have hne : Number.signed false x ≠ .zero := by
    intro heq
    exact hpos (congrArg code (Number.signed.inj heq).2)
  have hrest : -((308 + k : Nat) : Int) + 308 = -k := by omega
  rw [scale, Int.natAbs_neg, Int.natAbs_natCast, if_neg (by omega), if_neg hne,
    if_neg (by omega), hy, hrest]
  exact hp

/-! ## Significant digits -/

/-- What scaling significant digits gives: a finite magnitude at most two places away from the
digits' own, and no place away if neither the digits nor the power of ten have to be rounded. -/
structure Scales (n : Nat) (e : Int) (p : Magnitude) : Prop where
  scaled : scale 5 (.ofNat n) e = some (.signed false p)
  isFinite : p.isFinite
  le_add_two : p.code ≤ codeOf (n * 10 ^ e) + 2
  add_two_le : codeOf (n * 10 ^ e) ≤ p.code + 2
  exact_of_short : n ≤ 2 ^ 53 → e.natAbs ≤ 22 → p.code = codeOf (n * 10 ^ e)

theorem near_of_error {t y : ℚ} (ht : 0 ≤ t) (hy : 0 ≤ y)
    (h : |t - y| * (2 ^ 53 * 100) ≤ 192 * y) :
    codeOf t ≤ codeOf y + 2 ∧ codeOf y ≤ codeOf t + 2 :=
  codeOf_near_of_error ht hy (by linarith)

theorem exists_scales_mul (hn : 0 < n) (hn' : n ≤ 10 ^ 17)
    (hrange : codeOf ((n : ℚ) * 10 ^ k) < top) (hlast : k = 292 → n ≤ 17976931348623157) :
    ∃ p, Scales n k p := by
  obtain ⟨x, hx, hfinite, hcode⟩ := ofNat_eq hn'
  have hvalue : x.value = valueOf (codeOf n) := by rw [value, hcode]
  have hy : (0 : ℚ) ≤ n * 10 ^ k := by positivity
  have hlimit : n * 10 ^ k ≤ overflowLimit := by exact_mod_cast le_overflowLimit hy hrange
  have hk : k ≤ 308 := le_of_mul_ten_pow_le hn hlimit
  have ht : 0 ≤ valueOf (codeOf n) * tenPow k :=
    mul_nonneg (valueOf_nonneg _) (zero_le_one.trans (one_le_tenPow k))
  have hlt : valueOf (codeOf n) * tenPow k < overflowLimit := by
    by_cases hspecial : k = 292
    · subst hspecial
      exact mul_tenPow_lt_of_le (hlast rfl)
    · exact mul_tenPow_lt_of_ne hn hn' hk hspecial hlimit
  rw [← hvalue] at hlt ht
  obtain ⟨p, hp, hfinite', hcode'⟩ := scale_mul hfinite hk (codeOf_lt_top ht hlt) 4
  have hnear := near_of_error ht hy (by rw [hvalue]; exact mul_tenPow_error hn hk)
  rw [← hcode'] at hnear
  refine ⟨p, hx ▸ hp, hfinite', ?_, ?_, ?_⟩
  · rw [zpow_natCast]
    exact hnear.1
  · rw [zpow_natCast]
    exact hnear.2
  · intro hshort hexponent
    rw [Int.natAbs_natCast] at hexponent
    rw [hcode', zpow_natCast, hvalue, valueOf_codeOf_natCast hshort, tenPow_eq hexponent]

theorem exists_scales_div (hn : 0 < n) (hn' : n ≤ 10 ^ 17) (hk : 0 < k) (hk' : k ≤ 308) :
    ∃ p, Scales n (-k) p := by
  obtain ⟨x, hx, hfinite, hcode⟩ := ofNat_eq hn'
  have hvalue : x.value = valueOf (codeOf n) := by rw [value, hcode]
  obtain ⟨p, hp, hfinite', hcode'⟩ := scale_div hfinite hk hk' 4
  have hy : (0 : ℚ) ≤ n / 10 ^ k := by positivity
  have ht : 0 ≤ valueOf (codeOf n) / tenPow k :=
    div_nonneg (valueOf_nonneg _) (zero_le_one.trans (one_le_tenPow k))
  have hexact : (n : ℚ) * 10 ^ (-k : ℤ) = n / 10 ^ k := by
    rw [zpow_neg, zpow_natCast, div_eq_mul_inv]
  have hnear := near_of_error ht hy (div_tenPow_error hn hk')
  rw [← hvalue, ← hcode'] at hnear
  refine ⟨p, hx ▸ hp, hfinite', ?_, ?_, ?_⟩
  · rw [hexact]
    exact hnear.1
  · rw [hexact]
    exact hnear.2
  · intro hshort hexponent
    rw [Int.natAbs_neg, Int.natAbs_natCast] at hexponent
    rw [hcode', hexact, hvalue, valueOf_codeOf_natCast hshort, tenPow_eq hexponent]

theorem exists_scales_div_div (hn : 0 < n) (hn' : n ≤ 10 ^ 17) (hk : 0 < k) (hk' : k ≤ 308) :
    ∃ p, Scales n (-(308 + k : Nat)) p := by
  obtain ⟨x, hx, hfinite, hcode⟩ := ofNat_eq hn'
  have hvalue : x.value = valueOf (codeOf n) := by rw [value, hcode]
  have hpos : x.code ≠ 0 := by
    rw [← value_pos_iff, hvalue]
    have hone : valueOf (codeOf (1 : Nat)) = (1 : Nat) := valueOf_codeOf_natCast (by decide)
    have hmono := valueOf_strictMono.monotone
      (codeOf_mono (x := (1 : Nat)) (y := n) (by norm_num) (Nat.cast_le.mpr hn))
    rw [hone] at hmono
    exact zero_lt_one.trans_le (by simpa using hmono)
  obtain ⟨p, hp, hfinite', hcode'⟩ := scale_div_div hfinite hpos hk hk' 3
  rw [hvalue, ← firstQuotient] at hcode'
  obtain ⟨ten, hten⟩ : ∃ ten : ℚ, ten = 10 ^ 308 := ⟨_, rfl⟩
  have hexact : (n : ℚ) * 10 ^ (-(308 + k : Nat) : ℤ) = n / ten / 10 ^ k := by
    rw [zpow_neg, zpow_natCast, pow_add, ← hten, div_div, div_eq_mul_inv]
  have hnear := firstQuotient_div_tenPow_near hn hn' hk hk' hten
  rw [← hcode'] at hnear
  refine ⟨p, hx ▸ hp, hfinite', ?_, ?_, ?_⟩
  · rw [hexact]
    exact hnear.1
  · rw [hexact]
    exact hnear.2
  · intro _ hexponent
    omega

/-- The significant digits of a finite magnitude are scaled to a magnitude close to it. -/
theorem exists_scales {e : Int} (hn : 0 < n) (hn' : n ≤ 10 ^ 17) (hlow : -616 ≤ e)
    (hrange : codeOf (n * 10 ^ e) < top) (hlast : e = 292 → n ≤ 17976931348623157) :
    ∃ p, Scales n e p := by
  rcases Int.lt_or_le e 0 with hneg | hpos
  · rcases Int.lt_or_le e (-308) with hfar | hnear
    · obtain ⟨k, rfl⟩ : ∃ k : Nat, e = -(308 + k : Nat) := ⟨(-e - 308).toNat, by omega⟩
      exact exists_scales_div_div hn hn' (by omega) (by omega)
    · obtain ⟨k, rfl⟩ : ∃ k : Nat, e = -k := ⟨(-e).toNat, by omega⟩
      exact exists_scales_div hn hn' (by omega) (by omega)
  · obtain ⟨k, rfl⟩ : ∃ k : Nat, e = k := ⟨e.toNat, by omega⟩
    rw [zpow_natCast] at hrange
    exact exists_scales_mul hn hn' hrange fun h => hlast (by omega)

end TableQuery.Json.Numeral
