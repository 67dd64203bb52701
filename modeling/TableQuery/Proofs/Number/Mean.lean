import TableQuery.Proofs.Number.Places
import TableQuery.Proofs.Number.Range

/-!
# Sums and means

Every step of a sum goes up with the place that is added, so the mean of numbers
lies between those of as many copies of the least and of the greatest of them.
Such a mean of copies need not be the number that was copied: each partial sum is
rounded. Of at most `2 ^ 52` copies, whose sum is in range, it is not further off
than there are additions, counted in numbers; and it is the number itself when no
partial sum has to be rounded.
-/

namespace TableQuery

open Magnitude (codeOf valueOf top perOne runLength)

namespace Number

/-! ## Rounding errors -/

theorem exists_units_valueAt (p : Int) : ∃ units : Int, valueAt p * perOne = units := by
  refine ⟨p.sign * Magnitude.unitsOf p.natAbs, ?_⟩
  rw [valueAt, mul_assoc, Magnitude.valueOf_mul_perOne, Int.cast_mul, Int.cast_natCast]

theorem valueAt_placeOf_of_nonneg {q : ℚ} (hq : 0 ≤ q) (h : placeOf q < top) :
    valueAt (placeOf q) = valueOf (codeOf q) := by
  rw [placeOf_of_nonneg hq] at h ⊢
  rw [valueAt_natCast, Nat.min_eq_left (by omega)]

/-- Whole units are rounded by at most a part of `2 ^ 53`; few of them are not rounded at all. -/
theorem abs_valueAt_placeOf_sub_le {q : ℚ} (hunits : ∃ units : Int, q * perOne = units)
    (h : IsFinitePlace (placeOf q)) : |valueAt (placeOf q) - q| * 2 ^ 53 ≤ |q| := by
  obtain ⟨hlow, hhigh⟩ := h
  wlog hq : 0 ≤ q generalizing q with hpos
  · obtain ⟨units, hunits⟩ := hunits
    have hneg := hpos (q := -q) ⟨-units, by rw [neg_mul, hunits, Int.cast_neg]⟩
      (by rw [placeOf_neg]; omega) (by rw [placeOf_neg]; omega) (by linarith)
    rw [placeOf_neg, valueAt_neg, abs_neg q, neg_sub_neg, abs_sub_comm] at hneg
    exact hneg
  · rw [valueAt_placeOf_of_nonneg hq hhigh, abs_of_nonneg hq]
    by_cases hlarge : (runLength : ℚ) ≤ q * perOne
    · exact Magnitude.abs_valueOf_codeOf_sub_le hq hlarge
    · obtain ⟨units, hunits⟩ := hunits
      have hnonneg : 0 ≤ units := by
        have := mul_nonneg hq Magnitude.perOne_pos'.le
        rw [hunits] at this
        exact_mod_cast this
      obtain ⟨few, rfl⟩ := Int.eq_ofNat_of_zero_le hnonneg
      have hfew : few < runLength := by
        rw [hunits] at hlarge
        exact_mod_cast not_le.mp hlarge
      rw [Magnitude.valueOf_codeOf_of_units hunits hfew, sub_self, abs_zero, zero_mul]
      exact hq

/-- A value that is off by so many parts of `2 ^ 53` is at most as many places off. -/
theorem natAbs_placeOf_sub_le {p : Int} (hp : IsFinitePlace p) {q : ℚ} {j : Nat}
    (hj : j ≤ runLength) (h : |q - valueAt p| * 2 ^ 53 ≤ j * |valueAt p|) :
    (placeOf q - p).natAbs ≤ j := by
  obtain ⟨hlow, hhigh⟩ := hp
  wlog hp : 0 ≤ p generalizing p q with hpos
  · have hneg := hpos (p := -p) (q := -q)
      (by rwa [valueAt_neg, neg_sub_neg, abs_sub_comm, abs_neg]) (by omega) (by omega) (by omega)
    rw [placeOf_neg] at hneg
    omega
  · obtain ⟨code, rfl⟩ := Int.eq_ofNat_of_zero_le hp
    have hvalue := Magnitude.valueOf_nonneg code
    have hjq : (j : ℚ) ≤ 2 ^ 52 := by
      rw [← Magnitude.runLength_cast]
      exact_mod_cast hj
    rw [valueAt_natCast, abs_of_nonneg hvalue] at h
    have hjv : (j : ℚ) * valueOf code ≤ 2 ^ 52 * valueOf code :=
      mul_le_mul_of_nonneg_right hjq hvalue
    have hleft := (abs_le.mp ((le_div_iff₀ (by norm_num)).mpr h)).1
    have hq : 0 ≤ q := by linarith
    obtain ⟨hup, hdown⟩ := Magnitude.codeOf_near_valueOf hq hj h
    rw [placeOf_of_nonneg hq]
    omega

/-! ## Sums -/

/-- The place of a sum, told by the places of what is added. -/
def sumPlace (places : List Int) : Int :=
  places.foldl (fun sum p => movePlace (· + valueAt p) sum) 0

/-- The mean of a list: what is left of their sum for each of them. -/
def mean (numbers : List Number) : Number := (sum numbers).div (ofNat numbers.length)

/-- The place of a mean. -/
def meanPlace (places : List Int) : Int :=
  movePlace (· / valueOf (codeOf places.length)) (sumPlace places)

variable {numbers : List Number} {places others : List Int} {p : Int}

theorem ne_nan_of_isFinite {x : Number} (h : x.isFinite) : x ≠ .nan := by
  rintro rfl
  exact nomatch h

theorem place_sum (h : ∀ x ∈ numbers, x.isFinite) :
    (sum numbers).place = some (sumPlace (numbers.filterMap place)) :=
  place_foldl (fun y hy _ _ _ hx hplace => place_add_of_isFinite hx hplace (h y hy))
    (fun y hy => ne_nan_of_isFinite (h y hy)) place_negativeZero

theorem length_filterMap_place (h : ∀ x ∈ numbers, x.isFinite) :
    (numbers.filterMap place).length = numbers.length := by
  rw [List.length_filterMap_eq_countP, List.countP_eq_length]
  intro x hx
  obtain ⟨p, hp⟩ := exists_place_eq (ne_nan_of_isFinite (h x hx))
  rw [hp, Option.isSome_some]

theorem place_mean (h : ∀ x ∈ numbers, x.isFinite) (hne : numbers ≠ [])
    (hlength : numbers.length < 2 ^ 64) :
    (mean numbers).place = some (meanPlace (numbers.filterMap place)) := by
  have hrange : codeOf numbers.length < top :=
    Magnitude.codeOf_natCast_lt_top (hlength.trans (by decide +kernel))
  rw [mean, place_div_ofNat (place_sum h) (List.length_pos_iff.mpr hne) hrange, meanPlace,
    length_filterMap_place h]

theorem sumPlace_concat (places : List Int) (p : Int) :
    sumPlace (places ++ [p]) = movePlace (· + valueAt p) (sumPlace places) := by
  rw [sumPlace, List.foldl_concat, ← sumPlace]

/-- A sum goes up with everything that is added. -/
theorem sumPlace_le (h : List.Forall₂ (· ≤ ·) places others) : sumPlace places ≤ sumPlace others := by
  suffices hfrom : ∀ {a b : Int}, a ≤ b →
      places.foldl (fun sum p => movePlace (· + valueAt p) sum) a ≤
        others.foldl (fun sum p => movePlace (· + valueAt p) sum) b from hfrom le_rfl
  induction h with
  | nil => exact fun hab => hab
  | cons hpq _ ih =>
      intro a b hab
      exact ih (movePlace_le (fun u v huv => add_le_add huv (valueAt_mono hpq)) hab)

theorem meanPlace_le (h : List.Forall₂ (· ≤ ·) places others) :
    meanPlace places ≤ meanPlace others := by
  rw [meanPlace, meanPlace, h.length_eq]
  exact movePlace_le (fun u v huv => div_le_div_of_nonneg_right huv (Magnitude.valueOf_nonneg _))
    (sumPlace_le h)

/-- A mean lies between the means of copies of a lower and of an upper bound. -/
theorem meanPlace_bounds {low high : Int} (h : ∀ p ∈ places, low ≤ p ∧ p ≤ high) :
    meanPlace (.replicate places.length low) ≤ meanPlace places ∧
      meanPlace places ≤ meanPlace (.replicate places.length high) := by
  have hcopies : List.Forall₂ (· ≤ ·) (.replicate places.length low) places ∧
      List.Forall₂ (· ≤ ·) places (.replicate places.length high) := by
    induction places with
    | nil => exact ⟨.nil, .nil⟩
    | cons p rest ih =>
        rw [List.forall_mem_cons] at h
        obtain ⟨hlow, hhigh⟩ := ih h.2
        exact ⟨.cons h.1.1 hlow, .cons h.1.2 hhigh⟩
  exact ⟨meanPlace_le hcopies.1, meanPlace_le hcopies.2⟩

/-! ## Means of copies -/

theorem sumPlace_replicate_succ (n : Nat) (p : Int) : sumPlace (.replicate (n + 1) p) =
    movePlace (· + valueAt p) (sumPlace (.replicate n p)) := by
  rw [List.replicate_succ', sumPlace_concat]

theorem sumPlace_replicate_one (h : IsFinitePlace p) : sumPlace (.replicate 1 p) = p := by
  have hzero : sumPlace (.replicate 0 p) = 0 := rfl
  rw [sumPlace_replicate_succ, hzero, movePlace_of_finite _ isFinitePlace_zero, valueAt_zero,
    zero_add, placeOf_valueAt h]

/-- An addition to the sum of `k` copies adds twice as many parts of `2 ^ 53` to its error. -/
theorem addition_error {x s r k : ℚ} (hk : 1 ≤ k) (hk' : k ≤ 2 ^ 53)
    (hsum : |s - k * x| * 2 ^ 53 ≤ k * (k - 1) * |x|) (hround : |r - (s + x)| * 2 ^ 53 ≤ |s + x|) :
    |r - (k + 1) * x| * 2 ^ 53 ≤ (k + 1) * k * |x| := by
  have hpos : 0 ≤ (k - 1) * |x| := mul_nonneg (by linarith) (abs_nonneg x)
  have hbefore : |s - k * x| ≤ (k - 1) * |x| := by
    have hcap := mul_le_mul_of_nonneg_right hk' hpos
    linarith
  have hexact : |s + x| ≤ |s - k * x| + (k + 1) * |x| := by
    have hsplit : s + x = (s - k * x) + (k + 1) * x := by ring
    have hcopies : |(k + 1) * x| = (k + 1) * |x| := by rw [abs_mul, abs_of_nonneg (by linarith)]
    rw [hsplit, ← hcopies]
    exact abs_add_le _ _
  have htriangle : |r - (k + 1) * x| ≤ |r - (s + x)| + |s - k * x| := by
    have hsplit : r - (k + 1) * x = (r - (s + x)) + (s - k * x) := by ring
    rw [hsplit]
    exact abs_add_le _ _
  linarith

/-- Each of the additions but the first one is off by at most twice as many parts of `2 ^ 53` of the
number as there are copies before it. -/
theorem abs_sumPlace_replicate_sub_le (hp : IsFinitePlace p) {n : Nat} (hn : n ≤ 2 ^ 53)
    (hsum : IsFinitePlace (sumPlace (.replicate (n + 1) p))) :
    |valueAt (sumPlace (.replicate (n + 1) p)) - (n + 1) * valueAt p| * 2 ^ 53 ≤
      (n + 1) * n * |valueAt p| := by
  induction n with
  | zero =>
      rw [sumPlace_replicate_one hp]
      simp
  | succ n ih =>
      rw [sumPlace_replicate_succ] at hsum ⊢
      have hbefore := hsum.of_movePlace
      have hih := ih (by omega) hbefore
      rw [movePlace_of_finite _ hbefore] at hsum ⊢
      obtain ⟨x, hx⟩ : ∃ x, valueAt p = x := ⟨_, rfl⟩
      obtain ⟨s, hs⟩ : ∃ s, valueAt (sumPlace (.replicate (n + 1) p)) = s := ⟨_, rfl⟩
      have hunits : ∃ units : Int, (s + x) * perOne = units := by
        obtain ⟨u, hu⟩ := exists_units_valueAt p
        obtain ⟨v, hv⟩ := exists_units_valueAt (sumPlace (.replicate (n + 1) p))
        exact ⟨v + u, by rw [← hs, ← hx, add_mul, hv, hu, Int.cast_add]⟩
      rw [hs] at hih hsum ⊢
      rw [hx] at hih hsum ⊢
      have hround := abs_valueAt_placeOf_sub_le hunits hsum
      have hcount : (n + 1 : ℚ) ≤ 2 ^ 53 := by exact_mod_cast hn
      have hn0 : (0 : ℚ) ≤ n := Nat.cast_nonneg n
      have herror := addition_error (k := n + 1) (by linarith) hcount (by simpa using hih) hround
      simpa using herror

/-- The mean of up to `2 ^ 52` copies, whose sum is finite, is off by fewer places than there are
copies. -/
theorem natAbs_meanPlace_replicate_sub_lt (hp : IsFinitePlace p) {n : Nat} (hpos : 0 < n)
    (hn : n ≤ runLength) (hsum : IsFinitePlace (sumPlace (.replicate n p))) :
    (meanPlace (.replicate n p) - p).natAbs < n := by
  obtain ⟨n, rfl⟩ : ∃ before, n = before + 1 := ⟨n - 1, by omega⟩
  have hn53 : n + 1 ≤ 2 ^ 53 := hn.trans (by decide)
  have herror := abs_sumPlace_replicate_sub_le hp (by omega) hsum
  have hcount : valueOf (codeOf ((n + 1 : Nat) : ℚ)) = n + 1 := by
    rw [Magnitude.valueOf_codeOf_natCast hn53, Nat.cast_succ]
  rw [meanPlace, List.length_replicate, hcount, movePlace_of_finite _ hsum]
  refine Nat.lt_succ_of_le (natAbs_placeOf_sub_le hp (Nat.le_of_succ_le hn) ?_)
  have hn0 : (0 : ℚ) < n + 1 := Nat.cast_add_one_pos n
  obtain ⟨s, hs⟩ : ∃ s, valueAt (sumPlace (.replicate (n + 1) p)) = s := ⟨_, rfl⟩
  rw [hs] at herror ⊢
  have hscale : |s / (n + 1) - valueAt p| * (n + 1) = |s - (n + 1) * valueAt p| := by
    rw [← abs_of_pos hn0, ← abs_mul, abs_of_pos hn0, sub_mul, div_mul_cancel₀ _ hn0.ne', mul_comm]
  refine le_of_mul_le_mul_right ?_ hn0
  rw [mul_right_comm, hscale]
  linarith

/-- The value of a finite number. -/
def value (x : Number) : ℚ := valueAt (x.place.getD 0)

/-- So many copies of the number can be added one by one, and every partial sum is a number. -/
def HasMultiples (x : Number) (n : Nat) : Prop :=
  ∀ k ≤ n, ∃ y : Number, y.isFinite ∧ y.value = k * x.value

variable {x : Number} {n : Nat}

theorem value_eq (h : x.place = some p) : x.value = valueAt p := by
  rw [value, h, Option.getD_some]

theorem valueAt_sumPlace_replicate (hx : x.place = some p) (h : x.HasMultiples n) :
    ∀ k ≤ n, IsFinitePlace (sumPlace (.replicate k p)) ∧
      valueAt (sumPlace (.replicate k p)) = k * valueAt p := by
  intro k hk
  induction k with
  | zero =>
      have hzero : sumPlace (.replicate 0 p) = 0 := rfl
      rw [hzero, valueAt_zero, Nat.cast_zero, zero_mul]
      exact ⟨isFinitePlace_zero, rfl⟩
  | succ k ih =>
      obtain ⟨hbefore, hvalue⟩ := ih (by omega)
      obtain ⟨y, hfinite, hy⟩ := h (k + 1) hk
      obtain ⟨q, hq⟩ := exists_place_eq (ne_nan_of_isFinite hfinite)
      have hbounds := (isFinite_iff_place hq).mp hfinite
      rw [value_eq hq, value_eq hx] at hy
      have hsum : sumPlace (.replicate (k + 1) p) = q := by
        have hexact : k * valueAt p + valueAt p = valueAt q := by
          rw [hy]
          push_cast
          ring
        rw [sumPlace_replicate_succ, movePlace_of_finite _ hbefore, hvalue, hexact,
          placeOf_valueAt hbounds]
      exact hsum ▸ ⟨hbounds, hy⟩

/-- Copies that are added up without rounding have the number itself as their mean. -/
theorem meanPlace_replicate_eq (hx : x.place = some p) (hfinite : x.isFinite) (hpos : 0 < n)
    (hn : n ≤ 2 ^ 53) (h : x.HasMultiples n) : meanPlace (.replicate n p) = p := by
  obtain ⟨hsum, hvalue⟩ := valueAt_sumPlace_replicate hx h n le_rfl
  have hp := (isFinite_iff_place hx).mp hfinite
  have hn0 : (n : ℚ) ≠ 0 := Nat.cast_ne_zero.mpr hpos.ne'
  rw [meanPlace, List.length_replicate, Magnitude.valueOf_codeOf_natCast hn,
    movePlace_of_finite _ hsum, hvalue, mul_div_cancel_left₀ _ hn0, placeOf_valueAt hp]

theorem value_ofInt {z : Int} (h : z.natAbs ≤ 2 ^ 53) : (ofInt z).isFinite ∧ (ofInt z).value = z := by
  have hrange : codeOf z.natAbs < top :=
    Magnitude.codeOf_natCast_lt_top (h.trans_lt (by decide +kernel))
  have hcode : (Magnitude.ofNat z.natAbs).code = codeOf z.natAbs := by
    rw [Magnitude.code_ofNat, Nat.min_eq_left hrange.le]
  refine ⟨Magnitude.isFinite_iff.mpr (hcode ▸ hrange), ?_⟩
  have hvalue : valueOf (codeOf z.natAbs) = z.natAbs := Magnitude.valueOf_codeOf_natCast h
  rw [ofInt, value_eq (place_signed _ _), hcode]
  by_cases hz : z < 0
  · have habs : ((z.natAbs : Nat) : ℚ) = -z := by
      rw [Nat.cast_natAbs, abs_of_neg hz, Int.cast_neg]
    rw [if_pos (decide_eq_true hz), valueAt_neg, valueAt_natCast, hvalue, habs, neg_neg]
  · have habs : ((z.natAbs : Nat) : ℚ) = z := by
      rw [Nat.cast_natAbs, abs_of_nonneg (not_lt.mp hz)]
    rw [if_neg (mt of_decide_eq_true hz), valueAt_natCast, hvalue, habs]

/-- Integers of which so many copies stay within 53 bits have all multiples. -/
theorem hasMultiples_ofInt {z : Int} (h : n * z.natAbs ≤ 2 ^ 53) : (ofInt z).HasMultiples n := by
  intro k hk
  have hcopies : (k * z).natAbs ≤ 2 ^ 53 := by
    rw [Int.natAbs_mul, Int.natAbs_natCast]
    exact (Nat.mul_le_mul_right _ hk).trans h
  refine ⟨ofInt (k * z), (value_ofInt hcopies).1, ?_⟩
  rw [(value_ofInt hcopies).2]
  rcases Nat.eq_zero_or_pos k with rfl | hpos
  · simp
  · have hz : z.natAbs ≤ 2 ^ 53 :=
      (Nat.le_mul_of_pos_left _ (hpos.trans_le hk)).trans h
    rw [(value_ofInt hz).2, Int.cast_mul, Int.cast_natCast]

/-! ## Means of numbers -/

/-- A number is at most another one, or not more than `k` numbers above it. -/
def AtMost (k : Nat) (x y : Number) : Prop :=
  ∃ a b, x.place = some a ∧ y.place = some b ∧ a ≤ b + k

theorem atMost_iff {k : Nat} {x y : Number} {a b : Int} (hx : x.place = some a)
    (hy : y.place = some b) : x.AtMost k y ↔ a ≤ b + k := by
  simp [AtMost, hx, hy]

theorem AtMost.trans {j k : Nat} {x y z : Number} (hxy : x.AtMost j y) (hyz : y.AtMost k z) :
    x.AtMost (j + k) z := by
  obtain ⟨a, b, hx, hy, hab⟩ := hxy
  obtain ⟨b', c, hy', hz, hbc⟩ := hyz
  obtain rfl : b = b' := Option.some.inj (hy.symm.trans hy')
  exact ⟨a, c, hx, hz, by omega⟩

theorem isFinite_of_mem_replicate (h : x.isFinite) : ∀ y ∈ List.replicate n x, y.isFinite := by
  intro y hy
  exact List.eq_of_mem_replicate hy ▸ h

theorem place_sum_replicate (hx : x.place = some p) (h : x.isFinite) :
    (sum (.replicate n x)).place = some (sumPlace (.replicate n p)) := by
  rw [place_sum (isFinite_of_mem_replicate h), List.filterMap_replicate_of_some hx]

theorem place_mean_replicate (hx : x.place = some p) (h : x.isFinite) (hpos : 0 < n)
    (hn : n < 2 ^ 64) : (mean (.replicate n x)).place = some (meanPlace (.replicate n p)) := by
  rw [place_mean (isFinite_of_mem_replicate h) (by simpa using hpos.ne') (by simpa using hn),
    List.filterMap_replicate_of_some hx]

/-- The mean of finite numbers lies between the means of copies of a lower and of an upper bound. -/
theorem mean_between (hne : numbers ≠ []) (hlength : numbers.length < 2 ^ 64) {low high : Number}
    (hlow : low.isFinite) (hhigh : high.isFinite)
    (h : ∀ y ∈ numbers, y.isFinite ∧ low.AtMost 0 y ∧ y.AtMost 0 high) :
    (mean (.replicate numbers.length low)).AtMost 0 (mean numbers) ∧
      (mean numbers).AtMost 0 (mean (.replicate numbers.length high)) := by
  have hfinite : ∀ y ∈ numbers, y.isFinite := fun y hy => (h y hy).1
  have hpos := List.length_pos_iff.mpr hne
  obtain ⟨a, ha⟩ := exists_place_eq (ne_nan_of_isFinite hlow)
  obtain ⟨b, hb⟩ := exists_place_eq (ne_nan_of_isFinite hhigh)
  have hbounds : ∀ p ∈ numbers.filterMap place, a ≤ p ∧ p ≤ b := by
    intro p hp
    obtain ⟨y, hy, hplace⟩ := List.mem_filterMap.mp hp
    obtain ⟨-, hlowest, hhighest⟩ := h y hy
    rw [atMost_iff ha hplace] at hlowest
    rw [atMost_iff hplace hb] at hhighest
    omega
  obtain ⟨hleft, hright⟩ := meanPlace_bounds hbounds
  rw [length_filterMap_place hfinite] at hleft hright
  have hmean := place_mean hfinite hne hlength
  rw [atMost_iff (place_mean_replicate ha hlow hpos hlength) hmean,
    atMost_iff hmean (place_mean_replicate hb hhigh hpos hlength)]
  omega

/-- The mean of `n` copies of a number is the number itself, or less than `n` numbers away. -/
theorem mean_replicate_near (hfinite : x.isFinite) (hpos : 0 < n) (hn : n ≤ 2 ^ 52) {k : Nat}
    (hk : k = 0 ∧ x.HasMultiples n ∨ k = n - 1 ∧ (sum (.replicate n x)).isFinite) :
    x.AtMost k (mean (.replicate n x)) ∧ (mean (.replicate n x)).AtMost k x := by
  obtain ⟨p, hp⟩ := exists_place_eq (ne_nan_of_isFinite hfinite)
  have hmean := place_mean_replicate hp hfinite hpos (hn.trans_lt (by decide))
  rw [atMost_iff hp hmean, atMost_iff hmean hp]
  rcases hk with ⟨rfl, hmultiples⟩ | ⟨rfl, hsum⟩
  · rw [meanPlace_replicate_eq hp hfinite hpos (hn.trans (by decide)) hmultiples]
    omega
  · have hbounds := (isFinite_iff_place (place_sum_replicate hp hfinite)).mp hsum
    have hnear := natAbs_meanPlace_replicate_sub_lt ((isFinite_iff_place hp).mp hfinite) hpos hn
      hbounds
    omega

end Number

end TableQuery
