import TableQuery.Proofs.Number.PowersOfTen
import TableQuery.Proofs.Number.Shortest

/-!
# Integral magnitudes

The search for the shortest decimal of an integer never goes beyond the point,
and if it stops at the point it finds the integer itself. Before the point, the
decimal is a multiple of ten; from `2 ^ 53` up to `10 ^ 16` the magnitudes are
the even integers, and a multiple of ten that reads back can only be the
magnitude. So in this part the decimal is exact. It is also found again when it
comes with another zero behind the point.
-/

namespace TableQuery.Magnitude

variable {m : Magnitude} {x y : Nat}

theorem toNat?_eq_some_iff : m.toNat? = some x ↔ m.isFinite ∧ m.value = x := by
  have hvalue : m.value = x ↔ m.units = x * perOne := by
    rw [← mul_left_inj' perOne_pos'.ne', value_mul_perOne]
    exact_mod_cast Iff.rfl
  rw [hvalue, toNat?]
  constructor
  · intro h
    split at h
    · next hcond =>
      rw [Bool.and_eq_true, decide_eq_true_iff] at hcond
      refine ⟨hcond.1, ?_⟩
      rw [← Option.some.inj h, Nat.div_mul_cancel (Nat.dvd_of_mod_eq_zero hcond.2)]
    · cases h
  · rintro ⟨hfinite, hunits⟩
    rw [hunits, hfinite, Nat.mul_mod_left, Nat.mul_div_cancel x perOne_pos]
    rfl

theorem exists_perOne_eq : ∃ b, perOne = 2 ^ b := ⟨1074, perOne_eq⟩

/-- From `2 ^ 53` on, all magnitudes are even. -/
theorem exists_even (h : 2 ^ 53 ≤ m.value) : ∃ j : Nat, m.value = (2 * j : Nat) := by
  obtain ⟨b, hone⟩ := exists_perOne_eq
  obtain ⟨e, r, hcode, hrun, hr, -⟩ := exists_run m.code
  have hunits : m.units = r * 2 ^ e := by rw [units, hcode, unitsOf_run hrun hr.le]
  have hvalue := m.value_mul_perOne
  have hlarge : 2 ^ 53 * 2 ^ b ≤ r * 2 ^ e := by
    have hle := mul_le_mul_of_nonneg_right h perOne_pos'.le
    rw [hvalue, hunits, hone] at hle
    exact_mod_cast hle
  have hexponent : b < e := by
    have hlt : 2 ^ 53 * 2 ^ b < 2 ^ 53 * 2 ^ e :=
      hlarge.trans_lt (Nat.mul_lt_mul_of_pos_right hr (Nat.two_pow_pos e))
    exact (Nat.pow_lt_pow_iff_right (by decide)).mp (Nat.lt_of_mul_lt_mul_left hlt)
  obtain ⟨k, rfl⟩ := Nat.exists_eq_add_of_lt hexponent
  refine ⟨r * 2 ^ k, mul_right_cancel₀ perOne_pos'.ne' ?_⟩
  rw [hvalue, hunits, hone]
  push_cast
  ring

/-! ## The decimal of an integer -/

theorem readingBack?_of_eq_mul (tie : Tie) {dropped : Nat}
    (h : m.exactCoefficient = x * 10 ^ dropped)
    (hread : ofDecimal x (dropped - 1074) = m) :
    m.readingBack? tie dropped = some (x, (dropped : Int) - 1074) := by
  have hpos : 0 < 10 ^ dropped := Nat.pow_pos (by decide)
  have hcompare : compare 0 (10 ^ dropped) = .lt := Nat.compare_eq_lt.mpr hpos
  have hpick : picksUpper tie x 0 (10 ^ dropped) = false := by simp [picksUpper, hcompare]
  rw [readingBack?, Nat.pow_eq, h, Nat.mul_div_cancel x hpos, Nat.mul_mod_left, if_pos hread, hpick]
  rfl

theorem exactCoefficient_eq (h : m.value = x) {dropped : Nat} (hd : dropped = 1074) :
    m.exactCoefficient = x * 10 ^ dropped := by
  have hexact := m.exactCoefficient_mul
  have hexponent : (-1074 : ℤ) = -(dropped : ℤ) := by omega
  rw [h, hexponent, zpow_neg, zpow_natCast, mul_inv_eq_iff_eq_mul₀ (by positivity)] at hexact
  exact_mod_cast hexact

/-- A search along a range ends at the first hit. -/
theorem findSome?_range_eq_some {α : Type} {f : Nat → Option α} {bound : Nat} {a : α}
    (h : (List.range bound).findSome? f = some a) :
    ∃ n < bound, f n = some a ∧ ∀ k < n, f k = none := by
  induction bound with
  | zero => simp at h
  | succ bound ih =>
      rw [List.range_succ, List.findSome?_append] at h
      cases hfront : (List.range bound).findSome? f with
      | some b =>
          rw [hfront] at h
          obtain ⟨n, hn, hhit, hbefore⟩ := ih (hfront.trans h)
          exact ⟨n, Nat.lt_succ_of_lt hn, hhit, hbefore⟩
      | none =>
          rw [hfront] at h
          rw [List.findSome?_eq_none_iff] at hfront
          exact ⟨bound, Nat.lt_succ_self bound, by simpa using h,
            fun k hk => hfront k (List.mem_range.mpr hk)⟩

/-- The digits of an integer read back on the grid that ends at the point. -/
theorem ofDecimal_natCast_eq (hpos : m.code ≠ 0) (hvalue : m.value = x) {dropped : Nat}
    (hd : dropped = 1074) : ofDecimal x (dropped - 1074) = m := by
  have hx : x ≠ 0 := by
    rintro rfl
    exact (value_pos_iff.mpr hpos).ne' (by rw [hvalue, Nat.cast_zero])
  have hzero : (dropped : Int) - 1074 = 0 := by omega
  refine code_injective ?_
  rw [hzero, code_ofDecimal hx (by decide) (by decide), zpow_zero, mul_one, ← hvalue, value,
    codeOf_valueOf]
  exact Nat.min_eq_left m.code_le_top

/-- The exact value of an integer below `10 ^ 17` has from one to 17 digits before the point. -/
theorem exists_width_eq {dropped width : Nat} (hexact : m.exactCoefficient = x * 10 ^ dropped)
    (hone : 1 ≤ x) (hx : x < 10 ^ 17) (hlow : 10 ^ (width - 1) ≤ m.exactCoefficient)
    (hhigh : m.exactCoefficient < 10 ^ width) :
    ∃ last < 17, width = dropped + (last + 1) := by
  have hmore : dropped < width := by
    rw [hexact] at hhigh
    exact lt_of_ten_pow_lt ((Nat.le_mul_of_pos_left _ hone).trans_lt hhigh)
  have hless : width - 1 < 17 + dropped := by
    rw [hexact] at hlow
    refine lt_of_ten_pow_lt (hlow.trans_lt ?_)
    rw [Nat.pow_add]
    exact Nat.mul_lt_mul_of_pos_right hx (Nat.pow_pos (by decide))
  exact ⟨width - dropped - 1, by omega, by omega⟩

/-- The shortest decimal of an integer has no digits behind the point, and if it goes up to the
point it is the integer. -/
theorem shortest_of_value_eq (tie : Tie) (hpos : m.code ≠ 0) (hfinite : m.isFinite)
    (hvalue : m.value = x) (hx : x < 10 ^ 17) :
    ∃ c e : Nat, m.shortest tie = (c, (e : Int)) ∧ (e = 0 → c = x) := by
  obtain ⟨dropped, hd⟩ : ∃ dropped, dropped = 1074 := ⟨_, rfl⟩
  have hexact := exactCoefficient_eq hvalue hd
  have hhit := readingBack?_of_eq_mul tie hexact (ofDecimal_natCast_eq hpos hvalue hd)
  obtain ⟨width, hwidth, -, -, hlow, hhigh⟩ := digitCount_exactCoefficient hpos hfinite
  have hone : 1 ≤ x := by
    have hlt : (0 : ℚ) < x := hvalue ▸ value_pos_iff.mpr hpos
    exact_mod_cast hlt
  obtain ⟨last, hlast, hsplit⟩ := exists_width_eq hexact hone hx hlow hhigh
  -- At the latest, the search finds the integer itself.
  have hpoint : m.readingBack? tie (width - (last + 1)) = some (x, 0) := by
    rw [hsplit, Nat.add_sub_cancel, hhit, hd]
    rfl
  obtain ⟨⟨c, e⟩, hfound⟩ : ∃ found, ((List.range 17).findSome? fun n =>
      m.readingBack? tie (width - (n + 1))) = some found := by
    refine Option.isSome_iff_exists.mp (List.findSome?_isSome_iff.mpr ⟨last, ?_, ?_⟩)
    · exact List.mem_range.mpr hlast
    · rw [hpoint]
      rfl
  have hshortest : m.shortest tie = (c, e) := by
    rw [shortest, hwidth, hfound]
    rfl
  obtain ⟨n, -, hn, hbefore⟩ := findSome?_range_eq_some hfound
  rcases Nat.lt_trichotomy last n with hlt | rfl | hgt
  · have hnone := hbefore last hlt
    rw [hpoint] at hnone
    cases hnone
  · rw [hpoint] at hn
    obtain ⟨rfl, rfl⟩ := Prod.mk.inj (Option.some.inj hn)
    exact ⟨x, 0, hshortest, fun _ => rfl⟩
  · obtain ⟨-, rfl, -⟩ := readingBack?_eq_some hn
    obtain ⟨e, he⟩ : ∃ e : Nat, ((width - (n + 1) : Nat) : Int) - 1074 = (e + 1 : Nat) :=
      ⟨width - (n + 1) - 1074 - 1, by omega⟩
    exact ⟨c, e + 1, by rw [hshortest, he], fun h => by omega⟩

theorem valueOf_codeOf_two_mul (hy : y ≤ 2 ^ 53) : valueOf (codeOf ((2 * y : Nat) : ℚ)) = 2 * y := by
  have hexact := valueOf_codeOf_mul_two_pow hy 1
  rw [pow_one, mul_comm] at hexact
  rwa [Nat.cast_mul, Nat.cast_ofNat]

/-- Below `2 ^ 54` the even integers are magnitudes. -/
theorem value_eq_two_mul_of_codeOf_eq (h : codeOf ((2 * y : Nat) : ℚ) = m.code)
    (hsmall : m.value < 2 ^ 54) : m.value = (2 * y : Nat) := by
  have hself : valueOf m.code = m.value := rfl
  have hy : y ≤ 2 ^ 53 := by
    by_contra hgt
    have hmono : codeOf ((2 * 2 ^ 53 : Nat) : ℚ) ≤ codeOf ((2 * y : Nat) : ℚ) :=
      codeOf_mono (Nat.cast_nonneg _) (Nat.cast_le.mpr (by omega))
    have hle := valueOf_strictMono.monotone hmono
    rw [h, valueOf_codeOf_two_mul le_rfl, hself] at hle
    norm_num at hle hsmall
    linarith
  rw [← hself, ← h, valueOf_codeOf_two_mul hy, Nat.cast_mul, Nat.cast_ofNat]

/-- The significant digits are the decimal without the zeros at its end. -/
theorem exists_zeros_of_digits_eq {c e s : Nat} {exponent : Int} (hc : 0 < c)
    (h : Digits.ofDecimal c e = ⟨Nat.toDigits 10 s, exponent + (Nat.toDigits 10 s).length - 1⟩) :
    ∃ zeros : Nat, exponent = zeros ∧ s * 10 ^ zeros = c * 10 ^ e := by
  obtain ⟨s', z, -, rfl, hdigits⟩ := Digits.ofDecimal_eq hc e
  rw [hdigits] at h
  obtain ⟨hsame, hlead⟩ := Digits.mk.inj h
  obtain rfl : s' = s := by
    have hvalue := congrArg Decimal.ofDigits hsame
    rwa [Decimal.ofDigits_toDigits, Decimal.ofDigits_toDigits] at hvalue
  exact ⟨z + e, by omega, by rw [Nat.pow_add, Nat.mul_assoc]⟩

/-- The decimal of an integer between `2 ^ 53` and `2 ^ 54` is the integer. -/
theorem exists_eq_of_shortestDigits_eq {tie : Tie} (hvalue : m.value = x) (hfinite : m.isFinite)
    (hlarge : 2 ^ 53 ≤ x) (hx : x < 2 ^ 54) {s : Nat} {exponent : Int}
    (hdigits : m.shortestDigits tie =
      ⟨Nat.toDigits 10 s, exponent + (Nat.toDigits 10 s).length - 1⟩) :
    ∃ zeros : Nat, exponent = zeros ∧ s * 10 ^ zeros = x := by
  have hpos : m.code ≠ 0 := by
    rw [← value_pos_iff, hvalue]
    exact_mod_cast (by omega : 0 < x)
  obtain ⟨c, e, hshortest, hpoint⟩ := shortest_of_value_eq tie hpos hfinite hvalue (by omega)
  obtain ⟨c', e', hshortest', hcode, hc, -⟩ := shortest_spec tie hpos hfinite
  obtain ⟨rfl, rfl⟩ : c = c' ∧ (e : Int) = e' := by
    rw [hshortest] at hshortest'
    exact Prod.mk.inj hshortest'
  rw [shortestDigits, hshortest] at hdigits
  obtain ⟨zeros, rfl, hdecimal⟩ := exists_zeros_of_digits_eq hc hdigits
  refine ⟨zeros, rfl, ?_⟩
  rw [hdecimal]
  rcases Nat.eq_zero_or_pos e with rfl | he
  · rw [Nat.pow_zero, Nat.mul_one, hpoint rfl]
  · -- Before the point the decimal is even, and then it is a magnitude itself.
    obtain ⟨k, rfl⟩ : ∃ k, e = k + 1 := ⟨e - 1, by omega⟩
    obtain ⟨i, hi⟩ : ∃ i, c * 10 ^ (k + 1) = 2 * i := ⟨c * 10 ^ k * 5, by ring⟩
    have hcodeOf : codeOf ((2 * i : Nat) : ℚ) = m.code := by
      rw [← hcode, ← hi, zpow_natCast]
      push_cast
      rfl
    have hsmall : m.value < 2 ^ 54 := by
      rw [hvalue]
      exact_mod_cast hx
    have heq := value_eq_two_mul_of_codeOf_eq hcodeOf hsmall
    rw [hvalue] at heq
    rw [hi]
    exact_mod_cast heq.symm

/-! ## Another zero behind the point -/

/-- The even integers from `2 ^ 53` to `2 ^ 54` lie on one run. -/
theorem exists_valueOf_run :
    ∃ e, ∀ r, 2 ^ 52 ≤ r → r ≤ 2 ^ 53 → valueOf (e * runLength + r) = 2 * r := by
  obtain ⟨b, hone⟩ := exists_perOne_eq
  refine ⟨b + 1, fun r hlow hhigh => ?_⟩
  rw [valueOf, unitsOf_run (.inr hlow) hhigh, hone, div_eq_iff (by positivity)]
  push_cast
  ring

/-- A tenfold below `2 ^ 57` is rounded by eight at most. -/
theorem abs_valueOf_codeOf_tenfold_sub_le (hy : 2 * y < 10 ^ 16) :
    |valueOf (codeOf ((2 * y * 10 : Nat) : ℚ)) - (2 * y * 10 : Nat)| ≤ 8 := by
  obtain ⟨k, hk⟩ : ∃ k, (2 * y * 10 + 8) / 16 = k := ⟨_, rfl⟩
  have hclosest := abs_valueOf_codeOf_sub_le_abs (x := (2 * y * 10 : Nat)) (Nat.cast_nonneg _)
    (codeOf (k * 2 ^ 4))
  rw [valueOf_codeOf_mul_two_pow (by omega)] at hclosest
  refine hclosest.trans ?_
  have hlow : 2 * y * 10 ≤ k * 16 + 8 := by omega
  have hhigh : k * 16 ≤ 2 * y * 10 + 8 := by omega
  have hlow' : ((2 * y * 10 : Nat) : ℚ) ≤ k * 16 + 8 := by exact_mod_cast hlow
  have hhigh' : (k * 16 : ℚ) ≤ (2 * y * 10 : Nat) + 8 := by exact_mod_cast hhigh
  rw [abs_le]
  constructor <;> linarith

/-- A tenfold is rounded by less than ten times the room that the integer has. -/
theorem codeOf_tenfold_div (hlarge : 2 ^ 52 < y) (hy : 2 * y < 10 ^ 16) :
    codeOf (valueOf (codeOf ((2 * y * 10 : Nat) : ℚ)) / tenPow 1) = codeOf ((2 * y : Nat) : ℚ) := by
  have hten : tenPow 1 = 10 := by
    rw [tenPow_eq (by decide), pow_one]
  obtain ⟨t, ht⟩ : ∃ t, valueOf (codeOf ((2 * y * 10 : Nat) : ℚ)) / tenPow 1 = t := ⟨_, rfl⟩
  have herror : |t * 10 - 2 * y * 10| ≤ 8 := by
    have ht' : t * 10 = valueOf (codeOf ((2 * y * 10 : Nat) : ℚ)) := by
      rw [← ht, hten, div_mul_cancel₀ _ (by norm_num)]
    have hcast : (2 * y * 10 : ℚ) = (2 * y * 10 : Nat) := by push_cast; rfl
    rw [ht', hcast]
    exact abs_valueOf_codeOf_tenfold_sub_le hy
  obtain ⟨hlow, hhigh⟩ := abs_le.mp herror
  obtain ⟨e, hrun⟩ := exists_valueOf_run
  have hcode : codeOf ((2 * y : Nat) : ℚ) = e * runLength + y := by
    have hvalue := hrun y hlarge.le (by omega)
    have hcast : ((2 * y : Nat) : ℚ) = 2 * y := by push_cast; rfl
    rw [hcast, ← hvalue, codeOf_valueOf]
  have hone : (2 ^ 52 : ℚ) < y := by exact_mod_cast hlarge
  rw [hcode, ht]
  refine codeOf_eq_of_lt (by linarith) ?_ ?_
  · intro below hbelow
    obtain ⟨r, rfl⟩ : ∃ r, y = r + 1 := ⟨y - 1, by omega⟩
    obtain rfl : below = e * runLength + r := by omega
    rw [hrun r (by omega) (by omega), hrun (r + 1) hlarge.le (by omega)]
    push_cast at hlow hhigh ⊢
    linarith
  · have hnext := hrun (y + 1) (by omega) (by omega)
    rw [← Nat.add_assoc] at hnext
    rw [hrun y hlarge.le (by omega), hnext]
    push_cast
    linarith

end TableQuery.Magnitude
