import Mathlib.Algebra.Order.Field.Rat
import Mathlib.Tactic.FieldSimp
import Mathlib.Tactic.Linarith
import Mathlib.Tactic.Positivity
import TableQuery.Proofs.Number.Codes

/-!
# The nearest code

A quotient lies between the middles of the steps below and above its nearest
code; this is all that is needed of `nearestCode`, apart from ties. A code with
these middles on the right sides is the nearest one, and a greater quotient has
no smaller code.
-/

namespace TableQuery.Magnitude

/-! ## Rounding a quotient to an integer -/

theorem roundQuotient_spec (num : Nat) {den : Nat} (h : 0 < den) :
    num / den ≤ roundQuotient num den ∧ roundQuotient num den ≤ num / den + 1 ∧
      2 * num ≤ (2 * roundQuotient num den + 1) * den ∧
      2 * roundQuotient num den * den ≤ 2 * num + den := by
  have hsplit := Nat.div_add_mod num den
  have hmod := Nat.mod_lt num h
  rw [roundQuotient]
  generalize num / den = q at hsplit ⊢
  generalize num % den = r at hsplit hmod ⊢
  cases hcompare : compare (2 * r) den with
  | lt =>
      rw [Nat.compare_eq_lt] at hcompare
      refine ⟨Nat.le_refl _, Nat.le_succ _, ?_, ?_⟩ <;> dsimp only <;> nlinarith
  | eq =>
      rw [Nat.compare_eq_eq] at hcompare
      have hparity : q % 2 = 0 ∨ q % 2 = 1 := by omega
      rcases hparity with hparity | hparity <;> simp only [hparity] <;>
        refine ⟨by omega, by omega, ?_, ?_⟩ <;> nlinarith
  | gt =>
      rw [Nat.compare_eq_gt] at hcompare
      refine ⟨Nat.le_succ _, Nat.le_refl _, ?_, ?_⟩ <;> dsimp only <;> nlinarith

theorem roundQuotient_mul_right (num den : Nat) {k : Nat} (h : 0 < k) :
    roundQuotient (num * k) (den * k) = roundQuotient num den := by
  have hcompare : compare (2 * (num % den * k)) (den * k) = compare (2 * (num % den)) den := by
    rw [← Nat.mul_assoc]
    rcases Nat.lt_trichotomy (2 * (num % den)) den with hlt | heq | hgt
    · rw [Nat.compare_eq_lt.mpr hlt, Nat.compare_eq_lt.mpr (Nat.mul_lt_mul_of_pos_right hlt h)]
    · rw [Nat.compare_eq_eq.mpr heq, heq, Nat.compare_eq_eq.mpr rfl]
    · rw [Nat.compare_eq_gt.mpr hgt, Nat.compare_eq_gt.mpr (Nat.mul_lt_mul_of_pos_right hgt h)]
  rw [roundQuotient, roundQuotient, Nat.mul_div_mul_right _ _ h, Nat.mul_mod_mul_right, hcompare]

/-! ## The nearest code of a quotient of units -/

/-- The nearest code is a rounded multiple of a step, and the quotient is at least `2 ^ 52` steps
where the steps are longer than one unit. -/
theorem nearestCode_run (num : Nat) {den : Nat} (h : 0 < den) :
    ∃ e m, nearestCode num den = e * runLength + m ∧ (e = 0 ∨ runLength ≤ m) ∧
      m ≤ 2 * runLength ∧ 2 * num ≤ (2 * m + 1) * (den * 2 ^ e) ∧
      2 * m * (den * 2 ^ e) ≤ 2 * num + den * 2 ^ e ∧
      (e = 0 ∨ runLength * (den * 2 ^ e) ≤ num) ∧ num < 2 * runLength * (den * 2 ^ e) := by
  obtain ⟨e, he⟩ : ∃ e, e = (num / den).log2 - 52 := ⟨_, rfl⟩
  have hstep : 0 < den * 2 ^ e := Nat.mul_pos h (Nat.two_pow_pos e)
  have hquotient : num / (den * 2 ^ e) = num / den / 2 ^ e := (Nat.div_div_eq_div_mul ..).symm
  have hupper : num / (den * 2 ^ e) < 2 * runLength := by
    have hlog : num / den < 2 ^ ((num / den).log2 + 1) := Nat.lt_log2_self
    have hpower : 2 ^ ((num / den).log2 + 1) ≤ 2 ^ 53 * 2 ^ e := by
      rw [← Nat.pow_add]
      exact Nat.pow_le_pow_right (by decide) (by omega)
    rw [hquotient, Nat.div_lt_iff_lt_mul (Nat.two_pow_pos e)]
    exact Nat.lt_of_lt_of_le hlog hpower
  have hlower : e = 0 ∨ runLength ≤ num / (den * 2 ^ e) := by
    rcases Nat.eq_zero_or_pos e with hzero | hpos
    · exact .inl hzero
    · have hne : num / den ≠ 0 := by
        intro hzero
        rw [hzero, Nat.log2_zero] at he
        omega
      have hlog := Nat.log2_self_le hne
      have hexponent : (num / den).log2 = 52 + e := by omega
      rw [hexponent, Nat.pow_add] at hlog
      rw [hquotient, Nat.le_div_iff_mul_le (Nat.two_pow_pos e)]
      exact .inr hlog
  obtain ⟨hfloor, hceil, hhigh, hlow⟩ := roundQuotient_spec num hstep
  refine ⟨e, roundQuotient num (den * 2 ^ e), ?_, ?_, by omega, hhigh, hlow, ?_, ?_⟩
  · rw [nearestCode, ← he, Nat.shiftLeft_eq]
  · exact hlower.imp_right fun hle => Nat.le_trans hle hfloor
  · exact hlower.imp_right (Nat.le_div_iff_mul_le hstep).mp
  · exact (Nat.div_lt_iff_lt_mul hstep).mp hupper

/-- A quotient is not above the middle of the step from its nearest code upwards. -/
theorem two_mul_le_nearestCode (num : Nat) {den : Nat} (h : 0 < den) :
    2 * num ≤ (unitsOf (nearestCode num den) + unitsOf (nearestCode num den + 1)) * den := by
  obtain ⟨e, m, hcode, hrun, hm, hhigh, -, -, -⟩ := nearestCode_run num h
  have hgap : 2 ^ e ≤ gap (nearestCode num den) := by
    have hle : gap (e * runLength + min m (2 * runLength - 1)) ≤ gap (nearestCode num den) :=
      gap_mono (by omega)
    refine Nat.le_trans ?_ hle
    rcases hrun with rfl | hle
    · exact gap_pos _
    · have hdiv : e + 1 ≤ (e * runLength + min m (2 * runLength - 1)) / runLength := by
        rw [Nat.le_div_iff_mul_le runLength_pos, Nat.succ_mul]
        have := runLength_pos
        omega
      exact Nat.pow_le_pow_right (by decide) (by omega)
  have hunits : unitsOf (nearestCode num den) = m * 2 ^ e := by rw [hcode, unitsOf_run hrun hm]
  rw [unitsOf_succ, hunits]
  calc 2 * num ≤ (2 * m + 1) * (den * 2 ^ e) := hhigh
    _ = (m * 2 ^ e + (m * 2 ^ e + 2 ^ e)) * den := by ring
    _ ≤ _ := Nat.mul_le_mul_right _ (by omega)

/-- A quotient is not below the middle of the step from its nearest code downwards. -/
theorem nearestCode_le_two_mul (num : Nat) {den : Nat} (h : 0 < den) {below : Nat}
    (hbelow : nearestCode num den = below + 1) :
    (unitsOf below + unitsOf (below + 1)) * den ≤ 2 * num := by
  obtain ⟨e, m, hcode, hrun, hm, -, hlow, hlarge, -⟩ := nearestCode_run num h
  have hunits : unitsOf (below + 1) = m * 2 ^ e := by rw [← hbelow, hcode, unitsOf_run hrun hm]
  have hle : unitsOf below ≤ unitsOf (below + 1) := (unitsOf_strictMono (Nat.lt_add_one below)).le
  rcases hlarge with rfl | hlarge
  · have hlast : unitsOf below = m - 1 := by
      have hcode' : below = 0 * runLength + (m - 1) := by omega
      rw [hcode', unitsOf_run (.inl rfl) (by omega)]
      omega
    have hm' : 1 ≤ m := by omega
    obtain ⟨k, rfl⟩ := Nat.exists_eq_add_of_le hm'
    rw [hunits, hlast]
    simp only [Nat.add_sub_cancel_left, pow_zero, Nat.mul_one] at hlow ⊢
    nlinarith
  · rcases Nat.eq_zero_or_pos (m - runLength) with heq | hlt
    · -- Below the first multiple of a run the step is shorter, but the quotient is not below it.
      have hm' : m ≤ runLength := by omega
      calc (unitsOf below + unitsOf (below + 1)) * den
          ≤ (m * 2 ^ e + m * 2 ^ e) * den := Nat.mul_le_mul_right _ (by omega)
        _ = 2 * (m * (den * 2 ^ e)) := by ring
        _ ≤ 2 * (runLength * (den * 2 ^ e)) :=
            Nat.mul_le_mul_left _ (Nat.mul_le_mul_right _ hm')
        _ ≤ 2 * num := Nat.mul_le_mul_left _ hlarge
    · obtain ⟨k, rfl⟩ : ∃ k, m = k + 1 := ⟨m - 1, by omega⟩
      have hlast : unitsOf below = k * 2 ^ e := by
        have hcode' : below = e * runLength + k := by omega
        rw [hcode', unitsOf_run (by omega) (by omega)]
      rw [hunits, hlast]
      nlinarith

theorem nearestCode_mul_right (num den : Nat) {k : Nat} (h : 0 < k) :
    nearestCode (num * k) (den * k) = nearestCode num den := by
  have hstep : ∀ e, (den * k) <<< e = den <<< e * k := by
    intro e
    rw [Nat.shiftLeft_eq, Nat.shiftLeft_eq]
    ring
  rw [nearestCode, nearestCode, Nat.mul_div_mul_right _ _ h, hstep, roundQuotient_mul_right _ _ h]

/-- Equal quotients have one nearest code. -/
theorem nearestCode_congr {num den num' den' : Nat} (h : 0 < den) (h' : 0 < den')
    (heq : num * den' = num' * den) : nearestCode num den = nearestCode num' den' := by
  rw [← nearestCode_mul_right num den h', heq, Nat.mul_comm den den',
    nearestCode_mul_right num' den' h]

/-! ## The nearest code of a value -/

theorem perOne_pos : 0 < perOne := by decide

/-- The value that a code stands for. -/
def valueOf (code : Nat) : ℚ := unitsOf code / perOne

/-- The code nearest to a value that is not negative. -/
def codeOf (x : ℚ) : Nat := nearestCode (x.num.toNat * perOne) x.den

theorem perOne_pos' : (0 : ℚ) < perOne := by exact_mod_cast perOne_pos

theorem cast_numerator {x : ℚ} (h : 0 ≤ x) :
    ((x.num.toNat * perOne : Nat) : ℚ) = x * perOne * x.den := by
  have hnumerator : ((x.num.toNat : ℕ) : ℚ) = x.num := by
    exact_mod_cast Int.toNat_of_nonneg (Rat.num_nonneg.mpr h)
  have hsplit : (x.num : ℚ) = x.den * x := (Rat.den_mul_eq_num x).symm
  rw [Nat.cast_mul, hnumerator, hsplit]
  ring

/-- Every quotient is rounded like the value that it is. -/
theorem nearestCode_eq_codeOf {num den : Nat} (h : 0 < den) {x : ℚ} (hx : 0 ≤ x)
    (heq : (num : ℚ) = x * perOne * den) : nearestCode num den = codeOf x := by
  refine nearestCode_congr h x.pos ?_
  have hcross : (num : ℚ) * x.den = ((x.num.toNat * perOne : Nat) : ℚ) * den := by
    rw [cast_numerator hx, heq]
    ring
  exact_mod_cast hcross

theorem valueOf_strictMono : StrictMono valueOf := by
  intro a b h
  have hunits : (unitsOf a : ℚ) < unitsOf b := by exact_mod_cast unitsOf_strictMono h
  exact (div_lt_div_iff_of_pos_right perOne_pos').mpr hunits

theorem valueOf_mul_perOne (code : Nat) : valueOf code * perOne = unitsOf code :=
  div_mul_cancel₀ _ perOne_pos'.ne'

theorem valueOf_succ_mul_perOne (code : Nat) :
    valueOf (code + 1) * perOne = valueOf code * perOne + gap code := by
  rw [valueOf_mul_perOne, valueOf_mul_perOne, unitsOf_succ, Nat.cast_add]

theorem valueOf_nonneg (code : Nat) : 0 ≤ valueOf code := by
  rw [valueOf]
  positivity

/-- A value is not above the middle of the step from its nearest code upwards. -/
theorem two_mul_le_valueOf {x : ℚ} (h : 0 ≤ x) :
    2 * x ≤ valueOf (codeOf x) + valueOf (codeOf x + 1) := by
  have hle : (2 * (x.num.toNat * perOne : Nat) : ℚ) ≤
      (unitsOf (codeOf x) + unitsOf (codeOf x + 1)) * x.den := by
    exact_mod_cast two_mul_le_nearestCode (x.num.toNat * perOne) x.pos
  have hden : (0 : ℚ) < x.den := by exact_mod_cast x.pos
  rw [cast_numerator h, ← valueOf_mul_perOne, ← valueOf_mul_perOne] at hle
  refine le_of_mul_le_mul_right ?_ (mul_pos perOne_pos' hden)
  linarith

/-- A value is not below the middle of the step from its nearest code downwards. -/
theorem valueOf_le_two_mul {x : ℚ} (h : 0 ≤ x) {below : Nat} (hbelow : codeOf x = below + 1) :
    valueOf below + valueOf (below + 1) ≤ 2 * x := by
  have hle : ((unitsOf below + unitsOf (below + 1)) * x.den : ℚ) ≤
      2 * (x.num.toNat * perOne : Nat) := by
    exact_mod_cast nearestCode_le_two_mul (x.num.toNat * perOne) x.pos hbelow
  have hden : (0 : ℚ) < x.den := by exact_mod_cast x.pos
  rw [cast_numerator h, ← valueOf_mul_perOne, ← valueOf_mul_perOne] at hle
  refine le_of_mul_le_mul_right ?_ (mul_pos perOne_pos' hden)
  linarith

theorem codeOf_mono {x y : ℚ} (hx : 0 ≤ x) (hxy : x ≤ y) : codeOf x ≤ codeOf y := by
  by_contra hlt
  obtain ⟨below, hbelow⟩ : ∃ below, codeOf x = below + 1 := ⟨codeOf x - 1, by omega⟩
  have hlow := valueOf_le_two_mul hx hbelow
  have hhigh := two_mul_le_valueOf (hx.trans hxy)
  have hfirst : valueOf (codeOf y) ≤ valueOf below := valueOf_strictMono.monotone (by omega)
  have hsecond : valueOf (codeOf y + 1) ≤ valueOf (below + 1) :=
    valueOf_strictMono.monotone (by omega)
  -- Both values are in the middle of one step, so they are equal.
  have heq : x = y := by linarith
  subst heq
  exact hlt le_rfl

/-- A code is the nearest one if the value lies strictly between the middles of its steps. -/
theorem codeOf_eq_of_lt {x : ℚ} {code : Nat} (hx : 0 ≤ x)
    (hlow : ∀ below, code = below + 1 → valueOf below + valueOf code < 2 * x)
    (hhigh : 2 * x < valueOf code + valueOf (code + 1)) : codeOf x = code := by
  rcases Nat.lt_trichotomy (codeOf x) code with hlt | heq | hgt
  · obtain ⟨below, rfl⟩ : ∃ below, code = below + 1 := ⟨code - 1, by omega⟩
    have hle := two_mul_le_valueOf hx
    have hfirst := valueOf_strictMono.monotone (Nat.le_of_lt_succ hlt)
    have hsecond := valueOf_strictMono.monotone (Nat.succ_le_of_lt hlt)
    have habove := hlow below rfl
    linarith
  · exact heq
  · obtain ⟨below, hbelow⟩ : ∃ below, codeOf x = below + 1 := ⟨codeOf x - 1, by omega⟩
    have hle := valueOf_le_two_mul hx hbelow
    have hfirst : valueOf code ≤ valueOf below := valueOf_strictMono.monotone (by omega)
    have hsecond : valueOf (code + 1) ≤ valueOf (below + 1) :=
      valueOf_strictMono.monotone (by omega)
    linarith

@[simp] theorem codeOf_valueOf (code : Nat) : codeOf (valueOf code) = code := by
  refine codeOf_eq_of_lt (valueOf_nonneg code) ?_ ?_
  · rintro below rfl
    linarith [valueOf_strictMono (Nat.lt_add_one below)]
  · linarith [valueOf_strictMono (Nat.lt_add_one code)]

theorem valueOf_zero : valueOf 0 = 0 := by simp [valueOf, unitsOf]

theorem codeOf_zero : codeOf 0 = 0 := by
  have hcode := codeOf_valueOf 0
  rwa [valueOf_zero] at hcode

/-- No code stands for a value that is closer. -/
theorem abs_valueOf_codeOf_sub_le_abs {x : ℚ} (h : 0 ≤ x) (code : Nat) :
    |valueOf (codeOf x) - x| ≤ |valueOf code - x| := by
  rcases Nat.lt_trichotomy code (codeOf x) with hlt | rfl | hgt
  · obtain ⟨below, hbelow⟩ : ∃ below, codeOf x = below + 1 := ⟨codeOf x - 1, by omega⟩
    have hmiddle := valueOf_le_two_mul h hbelow
    have hle : valueOf code ≤ valueOf below := valueOf_strictMono.monotone (by omega)
    have hlast := valueOf_strictMono (Nat.lt_add_one below)
    rw [hbelow, abs_le, abs_of_nonpos (by linarith)]
    constructor <;> linarith
  · exact le_rfl
  · have hmiddle := two_mul_le_valueOf h
    have hle : valueOf (codeOf x + 1) ≤ valueOf code :=
      valueOf_strictMono.monotone (Nat.succ_le_of_lt hgt)
    have hnext := valueOf_strictMono (Nat.lt_add_one (codeOf x))
    rw [abs_le, abs_of_nonneg (by linarith)]
    constructor <;> linarith

/-- The error of rounding is at most half a step, and a value is at least `2 ^ 52` steps where the
steps are longer than one unit. -/
theorem codeOf_run {x : ℚ} (h : 0 ≤ x) :
    ∃ e : Nat, (e = 0 ∨ runLength * 2 ^ e ≤ x * perOne) ∧ x * perOne < 2 * runLength * 2 ^ e ∧
      2 * |valueOf (codeOf x) - x| * perOne ≤ 2 ^ e := by
  obtain ⟨e, m, hcode, hrun, hm, hhigh, hlow, hlarge, hupper⟩ :=
    nearestCode_run (x.num.toNat * perOne) x.pos
  have hden : (0 : ℚ) < x.den := by exact_mod_cast x.pos
  have hunits : valueOf (codeOf x) * perOne = m * 2 ^ e := by
    have hrunits := unitsOf_run hrun hm
    rw [← hcode] at hrunits
    rw [valueOf_mul_perOne, codeOf, hrunits]
    push_cast
    ring
  have hhigh' : 2 * (x * perOne * x.den) ≤ (2 * m + 1) * (x.den * 2 ^ e) := by
    rw [← cast_numerator h]
    exact_mod_cast hhigh
  have hlow' : 2 * m * (x.den * 2 ^ e) ≤ 2 * (x * perOne * x.den) + x.den * 2 ^ e := by
    rw [← cast_numerator h]
    exact_mod_cast hlow
  refine ⟨e, ?_, ?_, ?_⟩
  · refine hlarge.imp_right fun hle => ?_
    have hle' : (runLength : ℚ) * (x.den * 2 ^ e) ≤ x * perOne * x.den := by
      rw [← cast_numerator h]
      exact_mod_cast hle
    refine le_of_mul_le_mul_right ?_ hden
    linarith
  · have hlt : x * perOne * x.den < 2 * (runLength : ℚ) * (x.den * 2 ^ e) := by
      rw [← cast_numerator h]
      exact_mod_cast hupper
    refine lt_of_mul_lt_mul_right ?_ hden.le
    linarith
  · have habs : 2 * |valueOf (codeOf x) - x| * perOne =
        |2 * (valueOf (codeOf x) * perOne) - 2 * (x * perOne)| := by
      rw [← mul_sub, ← sub_mul, abs_mul, abs_mul, abs_two, abs_of_pos perOne_pos']
      ring
    rw [habs, hunits, abs_le]
    constructor
    · refine le_of_mul_le_mul_right ?_ hden
      linarith
    · refine le_of_mul_le_mul_right ?_ hden
      linarith

end TableQuery.Magnitude
