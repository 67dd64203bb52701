import TableQuery.Proofs.Number.Nearest

/-!
# Rounding close values

Rounding changes a value of `2 ^ (-1022)` or more by at most a part of `2 ^ 53`.
Two values that differ by two such parts, or by no more than the least positive
magnitude, have nearest codes that are at most two apart. From one code to another
the value grows by at least one such part for each code on the way, measured by
either end.
-/

namespace TableQuery.Magnitude

theorem runLength_cast : (runLength : ℚ) = 2 ^ 52 := by
  rw [runLength_eq]
  norm_num

/-- The relative error of rounding, for a value that is far enough above a power of two. -/
theorem abs_valueOf_codeOf_sub_le {x : ℚ} (h : 0 ≤ x) (hx : runLength ≤ x * perOne) :
    |valueOf (codeOf x) - x| * 2 ^ 53 ≤ x := by
  obtain ⟨e, hlow, -, herror⟩ := codeOf_run h
  have hstep : (runLength : ℚ) * 2 ^ e ≤ x * perOne := by
    rcases hlow with rfl | hlow
    · simpa using hx
    · exact hlow
  refine le_of_mul_le_mul_right ?_ perOne_pos'
  rw [runLength_cast] at hstep
  linarith

/-- Values whose nearest codes are three apart are two steps apart, because between them lie the
middles of the first step and of the last. -/
theorem two_mul_gap_le_of_far {x y : ℚ} (hx : 0 ≤ x) (hy : 0 ≤ y) {code below : Nat}
    (hcode : codeOf x = code) (hbelow : codeOf y = below + 1) (hfar : code + 2 ≤ below) :
    2 * gap code ≤ (y - x) * perOne := by
  have hhigh := two_mul_le_valueOf hx
  have hlow := valueOf_le_two_mul hy hbelow
  rw [hcode] at hhigh
  have hfirst : valueOf (code + 2) ≤ valueOf below := valueOf_strictMono.monotone hfar
  have hsecond : valueOf (code + 3) ≤ valueOf (below + 1) :=
    valueOf_strictMono.monotone (by omega)
  have hgap : ∀ c, code ≤ c → (gap code : ℚ) ≤ gap c := by
    intro c hc
    exact_mod_cast gap_mono hc
  have h0 := valueOf_succ_mul_perOne code
  have h1 := valueOf_succ_mul_perOne (code + 1)
  have h2 := valueOf_succ_mul_perOne (code + 2)
  have hg1 := hgap (code + 1) (by omega)
  have hg2 := hgap (code + 2) (by omega)
  have hdiff : valueOf (code + 2) + valueOf (code + 3) - valueOf code - valueOf (code + 1) ≤
      2 * (y - x) := by linarith
  have := mul_le_mul_of_nonneg_right hdiff perOne_pos'.le
  linarith

/-- A value is less than `2 ^ 53` times the step above its nearest code. -/
theorem mul_perOne_lt_gap {x : ℚ} (hx : 0 ≤ x) : x * perOne < 2 ^ 53 * gap (codeOf x) := by
  have hlt : valueOf (codeOf x) < valueOf (codeOf x + 1) :=
    valueOf_strictMono (Nat.lt_add_one _)
  have hx' : x < valueOf (codeOf x + 1) := by
    have hhigh := two_mul_le_valueOf hx
    linarith
  have hunits : (unitsOf (codeOf x + 1) : ℚ) ≤ 2 * runLength * gap (codeOf x) := by
    exact_mod_cast unitsOf_succ_le (codeOf x)
  calc x * perOne < valueOf (codeOf x + 1) * perOne := mul_lt_mul_of_pos_right hx' perOne_pos'
    _ ≤ 2 ^ 53 * gap (codeOf x) := by
      rw [valueOf_mul_perOne]
      rw [runLength_cast] at hunits
      linarith

theorem codeOf_le_add_two {x y : ℚ} (hx : 0 ≤ x) (hxy : x ≤ y)
    (h : (y - x) * perOne ≤ 1 ∨ (y - x) * 2 ^ 52 ≤ x) : codeOf y ≤ codeOf x + 2 := by
  by_contra hfar
  obtain ⟨below, hbelow⟩ : ∃ below, codeOf y = below + 1 := ⟨codeOf y - 1, by omega⟩
  have hapart := two_mul_gap_le_of_far hx (hx.trans hxy) rfl hbelow (by omega)
  have hone : (1 : ℚ) ≤ gap (codeOf x) := by exact_mod_cast gap_pos (codeOf x)
  rcases h with hunit | hpart
  · linarith
  · have hsize := mul_perOne_lt_gap hx
    have := mul_le_mul_of_nonneg_right hpart perOne_pos'.le
    linarith

theorem codeOf_near {x y : ℚ} (hx : 0 ≤ x) (hy : 0 ≤ y)
    (h : |y - x| * perOne ≤ 1 ∨ |y - x| * 2 ^ 52 ≤ min x y) :
    codeOf y ≤ codeOf x + 2 ∧ codeOf x ≤ codeOf y + 2 := by
  rcases le_total x y with hxy | hyx
  · rw [abs_of_nonneg (sub_nonneg.mpr hxy), min_eq_left hxy] at h
    exact ⟨codeOf_le_add_two hx hxy h, (codeOf_mono hx hxy).trans (Nat.le_add_right _ 2)⟩
  · rw [abs_of_nonpos (sub_nonpos.mpr hyx), neg_sub, min_eq_right hyx] at h
    exact ⟨(codeOf_mono hy hyx).trans (Nat.le_add_right _ 2), codeOf_le_add_two hy hyx h⟩

/-! ## How fast numbers grow -/

/-- So many steps up, a number has grown by at least so many parts of `2 ^ 53`. -/
theorem mul_unitsOf_add_le (code j : Nat) :
    j * unitsOf code + 2 * runLength * unitsOf code ≤ 2 * runLength * unitsOf (code + j) := by
  induction j with
  | zero => rw [Nat.zero_mul, Nat.zero_add, Nat.add_zero]
  | succ j ih =>
      have hstep : unitsOf code ≤ 2 * runLength * gap (code + j) := by
        have hle := unitsOf_succ_le code
        have hmono := Nat.mul_le_mul_left (2 * runLength) (gap_mono (Nat.le_add_right code j))
        have hsucc := unitsOf_strictMono (Nat.lt_add_one code)
        omega
      have hnext := unitsOf_succ (code + j)
      rw [← Nat.add_assoc, hnext]
      linarith

/-- So many steps down, a number has fallen by at least so many parts of `2 ^ 53`, because not more
than one change of the step can be passed on the way. -/
theorem mul_unitsOf_add_le_of_le (code : Nat) {j : Nat} (hj : j ≤ runLength) :
    j * unitsOf (code + j) + 2 * runLength * unitsOf code ≤ 2 * runLength * unitsOf (code + j) := by
  obtain ⟨e, m, hcode, hrun, hm, -⟩ := exists_run (code + j)
  rw [hcode, unitsOf_run hrun hm.le]
  by_cases hsame : e = 0 ∨ runLength + j ≤ m
  · obtain ⟨rest, rfl⟩ : ∃ rest, m = rest + j := by
      refine ⟨m - j, ?_⟩
      rcases hsame with rfl | hle <;> omega
    have hlow : code = e * runLength + rest := by omega
    rw [hlow, unitsOf_run (by omega) (by omega)]
    calc j * ((rest + j) * 2 ^ e) + 2 * runLength * (rest * 2 ^ e)
        ≤ j * (2 * runLength * 2 ^ e) + 2 * runLength * (rest * 2 ^ e) := by gcongr
      _ = 2 * runLength * ((rest + j) * 2 ^ e) := by ring
  · -- The lower code lies on the run before, where the steps are half as long.
    obtain ⟨below, rfl⟩ : ∃ below, e = below + 1 := ⟨e - 1, by omega⟩
    obtain ⟨offset, rfl⟩ : ∃ offset, m = runLength + offset := ⟨m - runLength, by omega⟩
    obtain ⟨room, hroom⟩ : ∃ room, runLength = j + room := ⟨runLength - j, by omega⟩
    have hlow : code = below * runLength + (runLength + (offset + room)) := by
      rw [Nat.succ_mul] at hcode
      omega
    rw [hlow, unitsOf_run (.inr (Nat.le_add_right _ _)) (by omega), Nat.pow_succ, hroom]
    calc _ ≤ j * ((j + room + offset) * (2 ^ below * 2)) +
            2 * (j + room) * ((j + room + (offset + room)) * 2 ^ below) +
            2 * (room * offset * 2 ^ below) := Nat.le_add_right _ _
      _ = _ := by ring

theorem mul_valueOf_le (code j : Nat) :
    j * valueOf code ≤ (valueOf (code + j) - valueOf code) * 2 ^ 53 := by
  have hunits : (j * unitsOf code + 2 * runLength * unitsOf code : ℚ) ≤
      2 * runLength * unitsOf (code + j) := by exact_mod_cast mul_unitsOf_add_le code j
  rw [runLength_cast, ← valueOf_mul_perOne, ← valueOf_mul_perOne] at hunits
  refine le_of_mul_le_mul_right ?_ perOne_pos'
  linarith

theorem mul_valueOf_add_le (code : Nat) {j : Nat} (hj : j ≤ runLength) :
    j * valueOf (code + j) ≤ (valueOf (code + j) - valueOf code) * 2 ^ 53 := by
  have hunits : (j * unitsOf (code + j) + 2 * runLength * unitsOf code : ℚ) ≤
      2 * runLength * unitsOf (code + j) := by exact_mod_cast mul_unitsOf_add_le_of_le code hj
  rw [runLength_cast, ← valueOf_mul_perOne, ← valueOf_mul_perOne] at hunits
  refine le_of_mul_le_mul_right ?_ perOne_pos'
  linarith

/-- A value that is off by so many parts of `2 ^ 53` is rounded at most as many codes away. -/
theorem codeOf_near_valueOf {q : ℚ} (hq : 0 ≤ q) {code j : Nat} (hj : j ≤ runLength)
    (h : |q - valueOf code| * 2 ^ 53 ≤ j * valueOf code) :
    codeOf q ≤ code + j ∧ code ≤ codeOf q + j := by
  obtain ⟨hleft, hright⟩ := abs_le.mp ((le_div_iff₀ (by norm_num)).mpr h)
  constructor
  · have hgrow := mul_valueOf_le code j
    rw [← codeOf_valueOf (code + j)]
    exact codeOf_mono hq (by linarith)
  · by_contra hfar
    obtain ⟨below, rfl⟩ : ∃ below, code = below + j := ⟨code - j, by omega⟩
    have hgrow := mul_valueOf_add_le below hj
    have hle : codeOf (valueOf below) ≤ codeOf q :=
      codeOf_mono (valueOf_nonneg below) (by linarith)
    rw [codeOf_valueOf] at hle
    omega

/-! ## Values that are rounded to themselves -/

/-- Few whole units are the value of a code. -/
theorem valueOf_codeOf_of_units {q : ℚ} {units : Nat} (h : q * perOne = units)
    (hfew : units < runLength) : valueOf (codeOf q) = q := by
  have hunits : unitsOf units = units := by rw [unitsOf, if_pos (by omega)]
  have hvalue : valueOf units = q := by rw [valueOf, hunits, div_eq_iff perOne_pos'.ne', h]
  rw [← hvalue, codeOf_valueOf]

/-- An integer of up to 53 bits has 53 bits once it is shifted to the left. -/
theorem exists_shift {n : Nat} (hpos : 0 < n) (h : n ≤ 2 ^ 53) :
    ∃ shift ≤ 52, 2 ^ 52 ≤ n * 2 ^ shift ∧ n * 2 ^ shift ≤ 2 ^ 53 := by
  rcases Nat.lt_or_eq_of_le h with hlt | rfl
  · have hlog : n.log2 < 53 := (Nat.log2_lt hpos.ne').mpr hlt
    obtain ⟨shift, hshift⟩ : ∃ shift, n.log2 + shift = 52 := ⟨52 - n.log2, by omega⟩
    refine ⟨shift, by omega, ?_, ?_⟩
    · calc 2 ^ 52 = 2 ^ n.log2 * 2 ^ shift := by rw [← Nat.pow_add, hshift]
        _ ≤ n * 2 ^ shift := Nat.mul_le_mul_right _ (Nat.log2_self_le hpos.ne')
    · calc n * 2 ^ shift ≤ 2 ^ (n.log2 + 1) * 2 ^ shift :=
            Nat.mul_le_mul_right _ Nat.lt_log2_self.le
        _ = 2 ^ (n.log2 + shift + 1) := by rw [← Nat.pow_add, Nat.add_right_comm]
        _ = 2 ^ 53 := by rw [hshift]
  · exact ⟨0, by decide, by decide, by decide⟩

/-- Integers of up to 53 bits, scaled by a power of two, are values of codes. -/
theorem valueOf_codeOf_mul_two_pow {n : Nat} (h : n ≤ 2 ^ 53) (j : Nat) :
    valueOf (codeOf (n * 2 ^ j)) = n * 2 ^ j := by
  rcases Nat.eq_zero_or_pos n with rfl | hpos
  · simp [codeOf_zero, valueOf_zero]
  · obtain ⟨shift, hshift, hlow, hhigh⟩ := exists_shift hpos h
    obtain ⟨rest, hrest⟩ : ∃ rest, 1074 = shift + rest := ⟨1074 - shift, by omega⟩
    have hunits := unitsOf_run (e := rest + j) (.inr hlow) hhigh
    have hone : (perOne : ℚ) = 2 ^ shift * 2 ^ rest := by
      rw [perOne, hrest, Nat.one_shiftLeft, Nat.pow_add]
      push_cast
      rfl
    have hvalue : valueOf ((rest + j) * runLength + n * 2 ^ shift) = n * 2 ^ j := by
      rw [valueOf, hunits, div_eq_iff perOne_pos'.ne', hone]
      push_cast
      ring
    rw [← hvalue, codeOf_valueOf]

theorem valueOf_codeOf_natCast {n : Nat} (h : n ≤ 2 ^ 53) : valueOf (codeOf n) = n := by
  simpa using valueOf_codeOf_mul_two_pow h 0

theorem codeOf_natCast_ne_zero {n : Nat} (hpos : 0 < n) : codeOf n ≠ 0 := by
  intro hzero
  have hone : codeOf ((1 : Nat) : ℚ) ≤ codeOf n :=
    codeOf_mono (Nat.cast_nonneg 1) (Nat.cast_le.mpr hpos)
  have hvalue := valueOf_codeOf_natCast (n := 1) (by decide)
  rw [Nat.le_zero.mp (hone.trans_eq hzero), valueOf_zero] at hvalue
  norm_num at hvalue

/-- The powers of ten that are values of codes. -/
theorem valueOf_codeOf_ten_pow {k : Nat} (h : k ≤ 22) : valueOf (codeOf (10 ^ k)) = 10 ^ k := by
  have hfive : 5 ^ k ≤ 2 ^ 53 := Nat.le_trans (Nat.pow_le_pow_right (by decide) h) (by decide)
  have hsplit : (10 : ℚ) ^ k = ((5 ^ k : Nat) : ℚ) * 2 ^ k := by
    push_cast
    rw [← mul_pow]
    norm_num
  rw [hsplit]
  exact valueOf_codeOf_mul_two_pow hfive k

end TableQuery.Magnitude
