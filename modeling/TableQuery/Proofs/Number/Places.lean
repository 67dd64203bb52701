import Mathlib.Order.Monotone.Odd
import TableQuery.Proofs.Number.Arithmetic

/-!
# Addition on the number line

A finite number is told by its place, and the place by the value there. Addition
and division act on values exactly and go to the nearest place, and an infinity
stays where it is. So both are `movePlace` by a function on values, which goes up
when the function or the place goes up. Negative zero is neutral for addition
and one for division, down to the sign of zero.
-/

namespace TableQuery

open Magnitude (codeOf valueOf top perOne)

/-! ## Neutral numbers -/

theorem Magnitude.nearest_units_mul (m : Magnitude) {k : Nat} (hk : 0 < k) :
    nearest (m.units * k) k = m := by
  refine code_injective ?_
  rw [code_nearest hk m.value_nonneg, value, codeOf_valueOf, Nat.min_eq_left m.code_le_top]
  rw [Nat.cast_mul, ← value_mul_perOne, value]

theorem Magnitude.isFinite_zero : zero.isFinite = true := by
  have htop : 0 < top := by decide
  exact isFinite_iff.mpr htop

theorem Magnitude.isFinite_infinity : infinity.isFinite = false := by
  simp [isFinite, infinity]

theorem Magnitude.eq_infinity {m : Magnitude} (h : top ≤ m.code) : m = infinity :=
  code_injective (m.code_le_top.antisymm h)

namespace Number

theorem negativeZero_add (x : Number) : negativeZero.add x = x := by
  cases x with
  | nan => rfl
  | signed negative m =>
      cases hfinite : m.isFinite with
      | false => simp [add, negativeZero, Magnitude.isFinite_zero, hfinite]
      | true =>
          have htotal : signedUnits true .zero + signedUnits negative m = signedUnits negative m := by
            simp [signedUnits]
          have hnearest : Magnitude.nearest m.units 1 = m := by
            simpa using m.nearest_units_mul Nat.one_pos
          simp only [add, negativeZero, Magnitude.isFinite_zero, hfinite, Bool.and_self, if_true,
            htotal]
          by_cases hzero : m.units = 0
          · have hm : m = .zero :=
              Magnitude.code_injective (Magnitude.units_eq_zero_iff.mp hzero)
            subst hm
            simp [signedUnits]
          · have hpos : 0 < m.units := by omega
            cases negative <;> simp [signedUnits, hzero, hpos, hnearest]

theorem div_one (x : Number) : x.div (ofNat 1) = x := by
  cases x with
  | nan => rfl
  | signed negative m =>
      have hone : (Magnitude.ofNat 1).isFinite ∧ (Magnitude.ofNat 1).code ≠ 0 ∧
          (Magnitude.ofNat 1).units = perOne := by decide +kernel
      obtain ⟨hfiniteOne, hcode, hunits⟩ := hone
      cases hfinite : m.isFinite with
      | false =>
          have hm : m = .infinity :=
            Magnitude.eq_infinity (by simpa [Magnitude.isFinite] using hfinite)
          subst hm
          simp [div, ofNat, hfinite, hfiniteOne]
      | true =>
          simp [div, ofNat, hfinite, hfiniteOne, hcode, hunits,
            m.nearest_units_mul Magnitude.perOne_pos]

theorem eq_infinity_of_place {x : Number} (h : x.place = some (top : Int)) : x = infinity := by
  obtain ⟨negative, m, rfl⟩ := exists_eq_signed h
  have htop : 0 < top := by decide
  rw [place_signed, Option.some_inj] at h
  cases negative with
  | true => simp at h; omega
  | false => exact congrArg (signed false) (Magnitude.eq_infinity (by simpa using h.ge))

theorem eq_negativeInfinity_of_place {x : Number} (h : x.place = some (-(top : Int))) :
    x = negativeInfinity := by
  obtain ⟨negative, m, rfl⟩ := exists_eq_signed h
  have htop : 0 < top := by decide
  rw [place_signed, Option.some_inj] at h
  cases negative with
  | true => exact congrArg (signed true) (Magnitude.eq_infinity (by simpa using h.le))
  | false => simp at h; omega

theorem infinity_min {x : Number} (hx : x ≠ .nan) : infinity.min x = x := by
  obtain ⟨p, hp⟩ := exists_place_eq hx
  have hmin : infinity.min x = if x.compare? infinity == some .lt then x else infinity := by
    obtain ⟨_, _, rfl⟩ := exists_eq_signed hp
    rfl
  rw [hmin, compare?_eq hp (rfl : infinity.place = some (top : Int))]
  split
  · rfl
  · next hnot =>
    have hle : (top : Int) ≤ p :=
      not_lt.mp fun hlt => hnot (beq_iff_eq.mpr (congrArg some (compare_lt_iff_lt.mpr hlt)))
    exact (eq_infinity_of_place ((place_bounds hp).2.antisymm hle ▸ hp)).symm

theorem negativeInfinity_max {x : Number} (hx : x ≠ .nan) : negativeInfinity.max x = x := by
  obtain ⟨p, hp⟩ := exists_place_eq hx
  have hmax : negativeInfinity.max x =
      if x.compare? negativeInfinity == some .gt then x else negativeInfinity := by
    obtain ⟨_, _, rfl⟩ := exists_eq_signed hp
    rfl
  rw [hmax, compare?_eq hp (rfl : negativeInfinity.place = some (-(top : Int)))]
  split
  · rfl
  · next hnot =>
    have hle : p ≤ -(top : Int) :=
      not_lt.mp fun hlt => hnot (beq_iff_eq.mpr (congrArg some (compare_gt_iff_gt.mpr hlt)))
    exact (eq_negativeInfinity_of_place (hle.antisymm (place_bounds hp).1 ▸ hp)).symm

/-! ## Values and places -/

/-- Places on this side of the infinities. -/
def IsFinitePlace (p : Int) : Prop := -(top : Int) < p ∧ p < top

theorem isFinitePlace_zero : IsFinitePlace 0 := by
  rw [IsFinitePlace]
  decide

/-- The value at a place. -/
def valueAt (p : Int) : ℚ := p.sign * valueOf p.natAbs

/-- The place that is nearest to a value, no further out than the infinities. -/
def placeOf (q : ℚ) : Int :=
  if q < 0 then -(Min.min (codeOf (-q)) top : Nat) else (Min.min (codeOf q) top : Nat)

@[simp] theorem valueAt_zero : valueAt 0 = 0 := by simp [valueAt]

@[simp] theorem valueAt_natCast (code : Nat) : valueAt code = valueOf code := by
  rcases Nat.eq_zero_or_pos code with rfl | hpos
  · simp [Magnitude.valueOf_zero]
  · rw [valueAt, Int.sign_eq_one_of_pos (by omega), Int.natAbs_natCast, Int.cast_one, one_mul]

@[simp] theorem valueAt_neg (p : Int) : valueAt (-p) = -valueAt p := by
  rw [valueAt, valueAt, Int.sign_neg, Int.natAbs_neg, Int.cast_neg, neg_mul]

theorem valueAt_mono {p q : Int} (h : p ≤ q) : valueAt p ≤ valueAt q := by
  refine monotone_of_odd_of_monotoneOn_nonneg valueAt_neg (fun p hp q hq hpq => ?_) h
  obtain ⟨code, rfl⟩ := Int.eq_ofNat_of_zero_le hp
  obtain ⟨other, rfl⟩ := Int.eq_ofNat_of_zero_le hq
  rw [valueAt_natCast, valueAt_natCast]
  exact Magnitude.valueOf_strictMono.monotone (Int.ofNat_le.mp hpq)

theorem placeOf_of_nonneg {q : ℚ} (h : 0 ≤ q) : placeOf q = (Min.min (codeOf q) top : Nat) :=
  if_neg (not_lt.mpr h)

@[simp] theorem placeOf_neg (q : ℚ) : placeOf (-q) = -placeOf q := by
  rcases lt_trichotomy q 0 with h | rfl | h
  · rw [placeOf_of_nonneg (by linarith), placeOf, if_pos h, neg_neg]
  · simp [placeOf, Magnitude.codeOf_zero]
  · rw [placeOf_of_nonneg h.le, placeOf, if_pos (by linarith), neg_neg]

theorem placeOf_bounds (q : ℚ) : -(top : Int) ≤ placeOf q ∧ placeOf q ≤ top := by
  rw [placeOf]
  split <;> omega

theorem placeOf_mono {q r : ℚ} (h : q ≤ r) : placeOf q ≤ placeOf r := by
  refine monotone_of_odd_of_monotoneOn_nonneg placeOf_neg (fun q hq r hr hqr => ?_) h
  rw [placeOf_of_nonneg hq, placeOf_of_nonneg hr]
  have := Magnitude.codeOf_mono hq hqr
  omega

theorem placeOf_valueAt {p : Int} (h : IsFinitePlace p) : placeOf (valueAt p) = p := by
  have hnonneg : ∀ code : Nat, code < top → placeOf (valueAt code) = code := by
    intro code hcode
    rw [valueAt_natCast, placeOf_of_nonneg (Magnitude.valueOf_nonneg code),
      Magnitude.codeOf_valueOf, Nat.min_eq_left hcode.le]
  obtain ⟨hlow, hhigh⟩ := h
  rcases le_total 0 p with hp | hp
  · obtain ⟨code, rfl⟩ := Int.eq_ofNat_of_zero_le hp
    exact hnonneg code (by simpa using hhigh)
  · obtain ⟨code, hcode⟩ := Int.eq_ofNat_of_zero_le (neg_nonneg.mpr hp)
    obtain rfl : p = -(code : Int) := by omega
    rw [valueAt_neg, placeOf_neg, hnonneg code (by omega)]

/-! ## Operations on places -/

variable {x y : Number} {a b : Int}

theorem isFinite_iff_place (h : x.place = some a) : x.isFinite ↔ IsFinitePlace a := by
  obtain ⟨negative, m, rfl⟩ := exists_eq_signed h
  rw [place_signed, Option.some_inj] at h
  have htop : 0 < top := by decide
  rw [isFinite, Magnitude.isFinite_iff, IsFinitePlace]
  cases negative <;> simp at h <;> omega

theorem signedUnits_cast (negative : Bool) (m : Magnitude) : (signedUnits negative m : ℚ) =
    valueAt (if negative then -(m.code : Int) else m.code) * perOne := by
  cases negative <;> simp [signedUnits, ← Magnitude.value_mul_perOne, Magnitude.value]

theorem place_nearest {total : Int} {q : ℚ} (h : (total : ℚ) = q * perOne) :
    (signed (total < 0) (.nearest total.natAbs 1)).place = some (placeOf q) := by
  have habs : ((total.natAbs : Nat) : ℚ) = |q| * perOne * (1 : Nat) := by
    rw [Nat.cast_natAbs, Int.cast_abs, h, abs_mul, abs_of_pos Magnitude.perOne_pos', Nat.cast_one,
      mul_one]
  rw [place_signed, Magnitude.code_nearest Nat.one_pos (abs_nonneg q) habs]
  have hsign : total < 0 ↔ q < 0 := by
    rw [← Int.cast_lt_zero (R := ℚ), h]
    exact ⟨fun hneg => neg_of_mul_neg_left hneg Magnitude.perOne_pos'.le,
      fun hneg => mul_neg_of_neg_of_pos hneg Magnitude.perOne_pos'⟩
  by_cases hq : q < 0
  · simp [hsign.mpr hq, placeOf, hq, abs_of_neg hq]
  · simp [mt hsign.mp hq, placeOf, hq, abs_of_nonneg (not_lt.mp hq)]

theorem place_add (hx : x.place = some a) (hy : y.place = some b) (hfinite : x.isFinite)
    (hfinite' : y.isFinite) : (x.add y).place = some (placeOf (valueAt a + valueAt b)) := by
  obtain ⟨s, m, rfl⟩ := exists_eq_signed hx
  obtain ⟨t, n, rfl⟩ := exists_eq_signed hy
  rw [place_signed, Option.some_inj] at hx hy
  have htotal : ((signedUnits s m + signedUnits t n : Int) : ℚ) =
      (valueAt a + valueAt b) * perOne := by
    rw [Int.cast_add, signedUnits_cast, signedUnits_cast, hx, hy, add_mul]
  rw [isFinite] at hfinite hfinite'
  simp only [add, hfinite, hfinite', Bool.and_self, if_true]
  split
  · next hzero =>
    have hsum : valueAt a + valueAt b = 0 := by
      rw [hzero, Int.cast_zero, eq_comm, mul_eq_zero] at htotal
      exact htotal.resolve_right Magnitude.perOne_pos'.ne'
    rw [hsum, ← valueAt_zero, placeOf_valueAt isFinitePlace_zero, place_signed]
    simp [Magnitude.zero]
  · exact place_nearest htotal

/-- Where an operation on values takes a place. The infinities stay where they are. -/
def movePlace (f : ℚ → ℚ) (p : Int) : Int :=
  if top ≤ p then top else if p ≤ -top then -top else placeOf (f (valueAt p))

theorem movePlace_bounds (f : ℚ → ℚ) (p : Int) : -(top : Int) ≤ movePlace f p ∧ movePlace f p ≤ top := by
  have := placeOf_bounds (f (valueAt p))
  rw [movePlace]
  split
  · omega
  · split <;> omega

theorem movePlace_of_finite (f : ℚ → ℚ) {p : Int} (h : IsFinitePlace p) :
    movePlace f p = placeOf (f (valueAt p)) := by
  rw [movePlace, if_neg (not_le.mpr h.2), if_neg (not_le.mpr h.1)]

/-- What is finite after a step was finite before it. -/
theorem IsFinitePlace.of_movePlace {f : ℚ → ℚ} {p : Int} (h : IsFinitePlace (movePlace f p)) :
    IsFinitePlace p := by
  rw [IsFinitePlace, movePlace] at h
  split at h
  · omega
  · split at h
    · omega
    · exact ⟨by omega, by omega⟩

theorem movePlace_le {f g : ℚ → ℚ} (h : ∀ u v, u ≤ v → f u ≤ g v) {p q : Int} (hpq : p ≤ q) :
    movePlace f p ≤ movePlace g q := by
  have hf := movePlace_bounds f p
  have hg := movePlace_bounds g q
  by_cases hhigh : top ≤ q
  · exact hf.2.trans (if_pos hhigh).ge
  by_cases hlow : p ≤ -top
  · have hleft : movePlace f p = -top := by rw [movePlace, if_neg (by omega), if_pos hlow]
    exact hleft.le.trans hg.1
  · rw [movePlace_of_finite f ⟨by omega, by omega⟩, movePlace_of_finite g ⟨by omega, by omega⟩]
    exact placeOf_mono (h _ _ (valueAt_mono hpq))

/-- An infinity has one of the two outermost places, and `movePlace` leaves it there. -/
theorem movePlace_of_not_isFinite (hx : x.place = some a) (h : x.isFinite = false) (f : ℚ → ℚ) :
    movePlace f a = a := by
  have hfinite := (isFinite_iff_place hx).not.mp (by simp [h])
  have hbounds := place_bounds hx
  have htop : 0 < top := by decide
  rw [IsFinitePlace] at hfinite
  rw [movePlace]
  split
  · omega
  · split <;> omega

/-- A finite number is added by moving by its value. -/
theorem place_add_of_isFinite (hx : x.place = some a) (hy : y.place = some b)
    (hfinite : y.isFinite) : (x.add y).place = some (movePlace (· + valueAt b) a) := by
  cases hleft : x.isFinite with
  | true =>
      rw [place_add hx hy hleft hfinite, movePlace_of_finite _ ((isFinite_iff_place hx).mp hleft)]
  | false =>
      have hadd : x.add y = x := by
        obtain ⟨s, m, rfl⟩ := exists_eq_signed hx
        obtain ⟨t, n, rfl⟩ := exists_eq_signed hy
        rw [isFinite] at hleft hfinite
        simp [add, hleft, hfinite]
      rw [hadd, movePlace_of_not_isFinite hx hleft, hx]

/-- A number is divided by a positive integer that is in range. -/
theorem place_div_ofNat (hx : x.place = some a) {n : Nat} (hpos : 0 < n) (hn : codeOf n < top) :
    (x.div (ofNat n)).place = some (movePlace (· / valueOf (codeOf n)) a) := by
  have hcode : (Magnitude.ofNat n).code = codeOf n := by
    rw [Magnitude.code_ofNat, Nat.min_eq_left hn.le]
  have hfinite : (Magnitude.ofNat n).isFinite := Magnitude.isFinite_iff.mpr (hcode ▸ hn)
  have hne : (Magnitude.ofNat n).code ≠ 0 := hcode.trans_ne (Magnitude.codeOf_natCast_ne_zero hpos)
  obtain ⟨s, m, rfl⟩ := exists_eq_signed hx
  cases hleft : m.isFinite with
  | true =>
      rw [movePlace_of_finite _ ((isFinite_iff_place hx).mp hleft)]
      rw [place_signed, Option.some_inj] at hx
      obtain ⟨p, hp, hpcode⟩ := Magnitude.div_signed hleft hfinite hne
      have hdiv : (signed s m).div (ofNat n) = signed s p := by
        simpa [div, ofNat, hleft, hfinite, hne] using hp
      have hquotient : 0 ≤ m.value / (Magnitude.ofNat n).value :=
        div_nonneg m.value_nonneg (Magnitude.value_nonneg _)
      have hplace := placeOf_of_nonneg hquotient
      rw [← hpcode, Magnitude.value, Magnitude.value, hcode] at hplace
      rw [hdiv, place_signed, ← hx]
      cases s <;> simp [neg_div, hplace]
  | false =>
      have hdiv : (signed s m).div (ofNat n) = signed s m := by
        have hm : m = .infinity := Magnitude.eq_infinity (by simpa [Magnitude.isFinite] using hleft)
        subst hm
        simp [div, ofNat, hleft, hfinite]
      rw [hdiv, movePlace_of_not_isFinite hx hleft, hx]

end Number

end TableQuery
