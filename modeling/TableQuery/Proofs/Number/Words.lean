import Mathlib.Data.Nat.Bitwise
import TableQuery.Proofs.Number.Arithmetic
import TableQuery.Proofs.Number.Codes

/-!
# The order of numbers as an order of words

A number is stored in a word of 64 bits: a sign, and behind it the code of the
magnitude; codes above that of infinity are left for values that are not a
number. Words can be compared as signed integers after the bits behind a set
sign are flipped. This order tells the zeros apart and puts the values that are
not a number at both of its ends; on words that are made uniform before,
`totalCompare` is the order that numbers are sorted in. Numbers that are one
sort as the units they stand for, infinity being above all of them.
-/

namespace TableQuery

/-- Comparisons agree when both ways of being unequal do. -/
theorem compare_congr {a b c d : Int} (hlt : a < b ↔ c < d) (hgt : b < a ↔ d < c) :
    compare a b = compare c d := by
  rcases lt_trichotomy a b with h | h | h
  · rw [compare_lt_iff_lt.mpr h, compare_lt_iff_lt.mpr (hlt.mp h)]
  · have h' : c = d := by omega
    rw [compare_eq_iff_eq.mpr h, compare_eq_iff_eq.mpr h']
  · rw [compare_gt_iff_gt.mpr h, compare_gt_iff_gt.mpr (hgt.mp h)]

namespace Number

theorem sortCompare_eq {x y : Number} {a b : Int} (hx : x.place = some a) (hy : y.place = some b) :
    x.sortCompare y = compare a b := by
  rw [sortCompare, hx, hy]

/-- Numbers are sorted by how many units they stand for. -/
theorem sortCompare_signed (s t : Bool) (m n : Magnitude) :
    (signed s m).sortCompare (signed t n) = compare (signedUnits s m) (signedUnits t n) := by
  have hlt := @Magnitude.units_lt_iff m n
  have hgt := @Magnitude.units_lt_iff n m
  have hm := @Magnitude.units_eq_zero_iff m
  have hn := @Magnitude.units_eq_zero_iff n
  rw [sortCompare_eq (place_signed s m) (place_signed t n)]
  cases s <;> cases t <;> simp only [signedUnits, if_true, if_false, Bool.false_eq_true] <;>
    apply compare_congr <;> omega

end Number

/-! ## Words -/

theorem xor_two_pow_of_lt {a n : Nat} (h : a < 2 ^ n) : a ^^^ 2 ^ n = 2 ^ n + a := by
  apply Nat.eq_of_testBit_eq
  intro i
  rw [Nat.testBit_xor, Nat.testBit_two_pow]
  rcases Nat.lt_trichotomy i n with hi | hi | hi
  · rw [Nat.testBit_two_pow_add_gt hi]
    simp [hi.ne']
  · rw [hi, Nat.testBit_two_pow_add_eq, Nat.testBit_lt_two_pow h]
    simp
  · have hpow : 2 ^ (n + 1) ≤ 2 ^ i := Nat.pow_le_pow_right (by decide) hi
    rw [Nat.testBit_lt_two_pow (by omega), Nat.testBit_lt_two_pow (by omega)]
    simp [hi.ne]

/-- A number as it is stored. -/
abbrev Word := BitVec 64

namespace Word

/-- The bits behind the sign. -/
def code (w : Word) : Nat := w.toNat % 2 ^ 63

/-- The number that a word stores. -/
def toNumber (w : Word) : Number :=
  if h : w.code ≤ Magnitude.top then .signed w.msb ⟨w.code, h⟩ else .nan

/-- The word of positive sign for all values that are not a number. -/
def quietNan : Word := 0x7FF8000000000000#64

/-- The word that is compared in place of a word: both zeros are the positive one, and all values
that are not a number are one. -/
def normalize (w : Word) : Word :=
  if w.toNumber.numericEq .zero then 0 else if w.toNumber.isNan then quietNan else w

/-- A word with the bits behind a set sign flipped. -/
def orderKey (w : Word) : Word := w ^^^ (w.sshiftRight 63 >>> 1)

/-- The order of words as signed integers, with the bits behind a set sign flipped. -/
def totalCompare (v w : Word) : Ordering := compare v.orderKey.toInt w.orderKey.toInt

theorem orderKey_of_msb_false {w : Word} (h : w.msb = false) : w.orderKey = w := by
  have hlt : w.toNat < 2 ^ 63 := by
    have := BitVec.msb_eq_false_iff_two_mul_lt.mp h
    omega
  have hzero : w.sshiftRight 63 = 0#64 := by
    rw [BitVec.sshiftRight_eq_of_msb_false h]
    apply BitVec.eq_of_toNat_eq
    rw [BitVec.toNat_ushiftRight, Nat.shiftRight_eq_div_pow, Nat.div_eq_of_lt hlt]
    rfl
  rw [orderKey, hzero]
  exact BitVec.xor_zero

theorem toNat_orderKey_of_msb_true {w : Word} (h : w.msb = true) :
    w.orderKey.toNat = 2 ^ 63 + (2 ^ 64 - 1 - w.toNat) := by
  have hle : 2 ^ 63 ≤ w.toNat := by
    have := BitVec.msb_eq_true_iff_two_mul_ge.mp h
    omega
  have hones : w.sshiftRight 63 = BitVec.allOnes 64 := by
    rw [BitVec.sshiftRight_eq_of_msb_true h]
    have hzero : ~~~w >>> 63 = 0#64 := by
      apply BitVec.eq_of_toNat_eq
      rw [BitVec.toNat_ushiftRight, BitVec.toNat_not, Nat.shiftRight_eq_div_pow,
        Nat.div_eq_of_lt (by omega)]
      rfl
    rw [hzero]
    rfl
  -- All bits but the sign are flipped: flip all, and then the sign once more.
  have hmask : BitVec.allOnes 64 >>> 1 = BitVec.allOnes 64 ^^^ BitVec.ofNat 64 (2 ^ 63) := by
    decide
  have hsign : (BitVec.ofNat 64 (2 ^ 63)).toNat = 2 ^ 63 := rfl
  rw [orderKey, hones, hmask, ← BitVec.xor_assoc, BitVec.xor_allOnes, BitVec.toNat_xor,
    BitVec.toNat_not, hsign]
  exact xor_two_pow_of_lt (by omega)

/-- The keys of negative words go down from minus one. -/
theorem toInt_orderKey (w : Word) :
    w.orderKey.toInt = if w.msb then -(w.code : Int) - 1 else w.code := by
  have hlt := w.isLt
  cases h : w.msb with
  | false =>
      have hhalf := BitVec.msb_eq_false_iff_two_mul_lt.mp h
      rw [orderKey_of_msb_false h, BitVec.toInt_eq_toNat_cond, if_pos hhalf, code]
      simp only [Bool.false_eq_true, if_false]
      omega
  | true =>
      have hhalf := BitVec.msb_eq_true_iff_two_mul_ge.mp h
      rw [BitVec.toInt_eq_toNat_cond, toNat_orderKey_of_msb_true h, code, if_neg (by omega)]
      simp only [if_true]
      omega

theorem toNumber_of_le {w : Word} (h : w.code ≤ Magnitude.top) :
    w.toNumber = .signed w.msb ⟨w.code, h⟩ := dif_pos h

theorem toNumber_eq_nan_iff {w : Word} : w.toNumber = .nan ↔ Magnitude.top < w.code := by
  rw [toNumber]
  split <;> simp <;> omega

/-- The integer that a place is sorted by; a missing place is sorted like the quiet word. -/
def sortKey : Option Int → Int
  | some a => if a < 0 then a - 1 else a
  | none => quietNan.code

theorem toInt_orderKey_normalize (w : Word) :
    w.normalize.orderKey.toInt = sortKey w.toNumber.place := by
  by_cases h : w.code ≤ Magnitude.top
  · have hnumber := toNumber_of_le h
    have hplace : w.toNumber.place = some (if w.msb then -(w.code : Int) else w.code) := by
      rw [hnumber, Number.place_signed]
    have hzero : w.toNumber.numericEq .zero = true ↔ w.code = 0 := by
      rw [Number.numericEq_iff hplace Number.place_zero]
      cases w.msb <;> simp
    have hnan : w.toNumber.isNan = false := by rw [hnumber, Number.isNan]
    have hkey : orderKey 0 = 0 := by decide
    rw [normalize, hplace, hnan]
    by_cases hcode : w.code = 0
    · rw [if_pos (hzero.mpr hcode), hkey, hcode]
      cases w.msb <;> rfl
    · rw [if_neg (mt hzero.mp hcode), if_neg Bool.false_ne_true, toInt_orderKey, sortKey]
      cases w.msb with
      | false =>
          simp only [Bool.false_eq_true, if_false]
          split <;> omega
      | true =>
          simp only [if_true]
          split <;> omega
  · have hnan : w.toNumber = .nan := toNumber_eq_nan_iff.mpr (by omega)
    rw [normalize, hnan, if_neg (by decide), if_pos (by decide)]
    decide

theorem sortKey_lt_of_place {x : Number} {a : Int} (h : x.place = some a) :
    sortKey (some a) < sortKey none := by
  have hquiet : quietNan.code = 0x7FF8000000000000 := by decide
  have htop : Magnitude.top = 0x7FF0000000000000 := by decide
  obtain ⟨s, m, rfl⟩ := Number.exists_eq_signed h
  have hm := m.code_le_top
  rw [Number.place_signed] at h
  cases h
  cases s with
  | false =>
      simp only [sortKey, Bool.false_eq_true, if_false]
      split <;> omega
  | true =>
      simp only [sortKey, if_true]
      split <;> omega

/-- Numbers are sorted as their words are ordered after these are made uniform. -/
theorem totalCompare_normalize (v w : Word) :
    totalCompare v.normalize w.normalize = v.toNumber.sortCompare w.toNumber := by
  rw [totalCompare, toInt_orderKey_normalize, toInt_orderKey_normalize, Number.sortCompare]
  cases hv : v.toNumber.place with
  | some a =>
      cases hw : w.toNumber.place with
      | some b =>
          apply compare_congr <;> simp only [sortKey] <;> split <;> split <;> omega
      | none => exact compare_lt_iff_lt.mpr (sortKey_lt_of_place hv)
  | none =>
      cases hw : w.toNumber.place with
      | some b => exact compare_gt_iff_gt.mpr (sortKey_lt_of_place hw)
      | none => exact compare_eq_iff_eq.mpr rfl

end Word

end TableQuery
