import Mathlib.Algebra.Order.Field.Power
import TableQuery.Number.Basic
import TableQuery.Proofs.Number.Distance

/-!
# Operations on values

Every operation on magnitudes is the exact operation on their values, rounded
once. So what the operations do is told by `codeOf`, as long as the result is in
range; out of range it is capped at the code of infinity.
-/

namespace TableQuery

namespace Magnitude

/-- The value of a magnitude. -/
def value (m : Magnitude) : ℚ := valueOf m.code

theorem value_nonneg (m : Magnitude) : 0 ≤ m.value := valueOf_nonneg m.code

theorem value_mul_perOne (m : Magnitude) : m.value * perOne = m.units := valueOf_mul_perOne m.code

theorem units_lt_iff {m n : Magnitude} : m.units < n.units ↔ m.code < n.code :=
  unitsOf_strictMono.lt_iff_lt

theorem units_eq_zero_iff {m : Magnitude} : m.units = 0 ↔ m.code = 0 := by
  have hzero : unitsOf 0 = 0 := rfl
  have hinj : unitsOf m.code = unitsOf 0 ↔ m.code = 0 := unitsOf_strictMono.injective.eq_iff
  rwa [hzero] at hinj

theorem value_pos_iff {m : Magnitude} : 0 < m.value ↔ m.code ≠ 0 := by
  rw [value, ← valueOf_zero, valueOf_strictMono.lt_iff_lt, Nat.pos_iff_ne_zero]

theorem isFinite_iff {m : Magnitude} : m.isFinite = true ↔ m.code < top := by
  simp [isFinite]

theorem code_nearest {num den : Nat} (h : 0 < den) {x : ℚ} (hx : 0 ≤ x)
    (heq : (num : ℚ) = x * perOne * den) : (nearest num den).code = min (codeOf x) top := by
  rw [← nearestCode_eq_codeOf h hx heq]
  rfl

theorem code_ofNat (n : Nat) : (ofNat n).code = min (codeOf n) top := by
  refine code_nearest Nat.one_pos (Nat.cast_nonneg n) ?_
  push_cast
  ring

theorem ten_zpow_eq (e : ℤ) :
    (10 : ℚ) ^ e = ((Nat.pow 10 e.toNat : Nat) : ℚ) / ((Nat.pow 10 (-e).toNat : Nat) : ℚ) := by
  rw [Nat.pow_eq, Nat.pow_eq]
  push_cast
  rcases le_total 0 e with he | he
  · obtain ⟨n, rfl⟩ := Int.eq_ofNat_of_zero_le he
    simp
  · obtain ⟨n, hn⟩ := Int.eq_ofNat_of_zero_le (neg_nonneg.mpr he)
    obtain rfl : e = -n := by omega
    simp

/-- A decimal whose exponent is not far out of range is rounded once. -/
theorem code_ofDecimal {coefficient : Nat} (hpos : coefficient ≠ 0) {exponent : Int}
    (hlow : -400 ≤ exponent) (hhigh : exponent ≤ 310) :
    (ofDecimal coefficient exponent).code = min (codeOf (coefficient * 10 ^ exponent)) top := by
  have hden : 0 < Nat.pow 10 (-exponent).toNat := Nat.pow_pos (by decide)
  have hdenQ : ((Nat.pow 10 (-exponent).toNat : Nat) : ℚ) ≠ 0 := by exact_mod_cast hden.ne'
  rw [ofDecimal, if_neg hpos, if_neg (by omega), if_neg (by omega)]
  refine code_nearest hden (x := (coefficient : ℚ) * 10 ^ exponent) (by positivity) ?_
  rw [ten_zpow_eq]
  push_cast
  field_simp

/-- A decimal that is read as a positive finite magnitude has it as its nearest code. -/
theorem codeOf_eq_of_ofDecimal_eq {coefficient : Nat} {exponent : Int} {m : Magnitude}
    (h : ofDecimal coefficient exponent = m) (hpos : m.code ≠ 0) (hfinite : m.isFinite) :
    codeOf (coefficient * 10 ^ exponent) = m.code := by
  have hden : 0 < Nat.pow 10 (-exponent).toNat := Nat.pow_pos (by decide)
  have hdenQ : ((Nat.pow 10 (-exponent).toNat : Nat) : ℚ) ≠ 0 := by exact_mod_cast hden.ne'
  rw [isFinite_iff] at hfinite
  rw [ofDecimal] at h
  split at h
  · exact absurd (congrArg code h).symm hpos
  split at h
  · exact absurd (congrArg code h).symm hfinite.ne
  split at h
  · exact absurd (congrArg code h).symm hpos
  · have hcode := congrArg code h
    rw [code_nearest hden (x := (coefficient : ℚ) * 10 ^ exponent) (by positivity)] at hcode
    · omega
    · rw [ten_zpow_eq]
      push_cast
      field_simp

theorem mul_signed {m n : Magnitude} (hm : m.isFinite) (hn : n.isFinite) :
    ∃ p : Magnitude, Number.mul (.signed false m) (.signed false n) = .signed false p ∧
      p.code = min (codeOf (m.value * n.value)) top := by
  refine ⟨_, by simp [Number.mul, hm, hn]; rfl, ?_⟩
  refine code_nearest perOne_pos (mul_nonneg m.value_nonneg n.value_nonneg) ?_
  rw [Nat.cast_mul, ← value_mul_perOne, ← value_mul_perOne]
  ring

theorem div_signed {m n : Magnitude} (hm : m.isFinite) (hn : n.isFinite) (hpos : n.code ≠ 0) :
    ∃ p : Magnitude, Number.div (.signed false m) (.signed false n) = .signed false p ∧
      p.code = min (codeOf (m.value / n.value)) top := by
  have hvalue : 0 < n.value := value_pos_iff.mpr hpos
  have hunits : 0 < n.units := by
    have : (0 : ℚ) < n.units := by
      rw [← value_mul_perOne]
      exact mul_pos hvalue perOne_pos'
    exact_mod_cast this
  refine ⟨_, by simp [Number.div, hm, hn, hpos]; rfl, ?_⟩
  refine code_nearest hunits (div_nonneg m.value_nonneg n.value_nonneg) ?_
  rw [Nat.cast_mul, ← value_mul_perOne, ← value_mul_perOne]
  field_simp

end Magnitude

namespace Number

theorem place_signed (negative : Bool) (m : Magnitude) :
    (signed negative m).place = some (if negative then -(m.code : Int) else m.code) := by
  cases negative <;> rfl

theorem exists_place_eq {x : Number} (hx : x ≠ .nan) : ∃ place, x.place = some place := by
  cases x with
  | nan => exact absurd rfl hx
  | signed negative m => exact ⟨_, place_signed negative m⟩

variable {x y : Number} {a b : Int}

theorem exists_eq_signed (h : x.place = some a) : ∃ negative m, x = signed negative m := by
  cases x with
  | nan => cases h
  | signed negative m => exact ⟨negative, m, rfl⟩

/-- All numbers lie between the infinities. -/
theorem place_bounds (h : x.place = some a) :
    -(Magnitude.top : Int) ≤ a ∧ a ≤ Magnitude.top := by
  obtain ⟨negative, m, rfl⟩ := exists_eq_signed h
  have hm := m.code_le_top
  rw [place_signed] at h
  cases h
  split <;> omega

theorem compare?_eq (hx : x.place = some a) (hy : y.place = some b) :
    x.compare? y = some (compare a b) := by
  simp [compare?, hx, hy]

/-- An operation that acts on places acts on them along a list. -/
theorem place_foldl {f : Number → Number → Number} {g : Int → Int → Int} {numbers : List Number}
    (hf : ∀ y ∈ numbers, ∀ {x a b}, x.place = some a → y.place = some b →
      (f x y).place = some (g a b))
    (hplaced : ∀ y ∈ numbers, y ≠ .nan) (hx : x.place = some a) :
    (numbers.foldl f x).place = some ((numbers.filterMap place).foldl g a) := by
  induction numbers generalizing x a with
  | nil => exact hx
  | cons y numbers ih =>
      rw [List.forall_mem_cons] at hf hplaced
      obtain ⟨b, hy⟩ := exists_place_eq hplaced.1
      rw [List.foldl_cons, List.filterMap_cons_some hy, List.foldl_cons]
      exact ih hf.2 hplaced.2 (hf.1 hx hy)

theorem numericEq_iff (hx : x.place = some a) (hy : y.place = some b) :
    x.numericEq y = true ↔ a = b := by
  simp [numericEq, compare?_eq hx hy]

end Number

end TableQuery
