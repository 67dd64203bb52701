import TableQuery.Proofs.Number.Integral
import TableQuery.Proofs.Number.Range

/-!
# Integers with bits appended

An integer of more than 53 bits is rounded by the bits that do not fit. Bits that
are appended behind them move the result by as many runs of codes and change
nothing else, with one exception: if the integer is a tie that is rounded down to
the even side, any appended bit that is set tells against it. For a number that
is rounded already, appended bits are less than half a step and are lost.
-/

namespace TableQuery

namespace Magnitude

variable {n b s k : Nat}

/-! ## Rounding once -/

theorem log2_mul_two_pow_add (hn : n ≠ 0) (hb : b < 2 ^ s) :
    (n * 2 ^ s + b).log2 = n.log2 + s := by
  have hlow := Nat.mul_le_mul_right (2 ^ s) (Nat.log2_self_le hn)
  have hhigh : (n + 1) * 2 ^ s ≤ 2 ^ (n.log2 + 1) * 2 ^ s :=
    Nat.mul_le_mul_right _ (Nat.succ_le_of_lt Nat.lt_log2_self)
  have hne : n * 2 ^ s + b ≠ 0 := by
    have := Nat.mul_pos (Nat.pos_of_ne_zero hn) (Nat.two_pow_pos s)
    omega
  rw [← Nat.pow_add] at hlow hhigh
  rw [Nat.succ_mul, Nat.add_right_comm n.log2 1 s] at hhigh
  exact (Nat.log2_eq_iff hne).mpr ⟨by omega, by omega⟩

theorem log2_mul_two_pow (hn : n ≠ 0) (s : Nat) : (n * 2 ^ s).log2 = n.log2 + s :=
  log2_mul_two_pow_add hn (Nat.two_pow_pos s)

/-- An integer of 53 bits or more is rounded to a multiple of its step. -/
theorem codeOf_natCast_eq (hn : 2 ^ 52 ≤ n) : codeOf n =
    (n.log2 - 52 + 1074) * runLength + roundQuotient n (2 ^ (n.log2 - 52)) := by
  have hne : n ≠ 0 := by
    rintro rfl
    exact absurd hn (by decide)
  have hlog : 52 ≤ n.log2 := (Nat.le_log2 hne).mpr hn
  -- The units are too many to be a numeral.
  obtain ⟨z, hz⟩ : ∃ z, z = 1074 := ⟨_, rfl⟩
  have hone : perOne = 2 ^ z := hz ▸ perOne_eq
  have hexcess : (n * perOne / 1).log2 - 52 = n.log2 - 52 + z := by
    rw [Nat.div_one, hone, log2_mul_two_pow hne]
    omega
  rw [codeOf_natCast, nearestCode, hexcess, Nat.one_shiftLeft, Nat.pow_add, hone,
    roundQuotient_mul_right _ _ (Nat.two_pow_pos z), hz]

theorem mul_two_pow_add_div_two_pow (n : Nat) (hb : b < 2 ^ s) : (n * 2 ^ s + b) / 2 ^ s = n := by
  rw [Nat.mul_comm, Nat.mul_add_div (Nat.two_pow_pos s), Nat.div_eq_of_lt hb, Nat.add_zero]

theorem mul_two_pow_add_div (n d : Nat) (hb : b < 2 ^ s) :
    (n * 2 ^ s + b) / (d * 2 ^ s) = n / d := by
  rw [Nat.mul_comm d, ← Nat.div_div_eq_div_mul, mul_two_pow_add_div_two_pow n hb]

theorem mul_two_pow_add_mod (n d : Nat) (hb : b < 2 ^ s) :
    (n * 2 ^ s + b) % (d * 2 ^ s) = n % d * 2 ^ s + b := by
  rw [Nat.mul_comm d, Nat.mod_mul, mul_two_pow_add_div_two_pow n hb, Nat.mul_comm n,
    Nat.mul_add_mod, Nat.mod_eq_of_lt hb, Nat.add_comm, Nat.mul_comm]

/-- What is appended to a number matters only if the number is a tie that would be rounded down. -/
theorem roundQuotient_mul_two_pow_add (n : Nat) {half : Nat} (hhalf : 0 < half) (hb : b < 2 ^ s) :
    roundQuotient (n * 2 ^ s + b) (2 * half * 2 ^ s) = roundQuotient n (2 * half) +
      if 0 < b ∧ n % (2 * half) = half ∧ n / (2 * half) % 2 = 0 then 1 else 0 := by
  have hpow := Nat.two_pow_pos s
  rw [roundQuotient, roundQuotient, mul_two_pow_add_div _ _ hb,
    mul_two_pow_add_mod _ _ hb]
  generalize n / (2 * half) = q
  generalize n % (2 * half) = r
  have hassoc : 2 * half * 2 ^ s = 2 * (half * 2 ^ s) := Nat.mul_assoc 2 half (2 ^ s)
  rcases Nat.lt_trichotomy r half with hlt | rfl | hgt
  · have hle : (r + 1) * 2 ^ s ≤ half * 2 ^ s := Nat.mul_le_mul_right _ hlt
    rw [Nat.succ_mul] at hle
    have happended : 2 * (r * 2 ^ s + b) < 2 * half * 2 ^ s := by omega
    rw [Nat.compare_eq_lt.mpr happended, Nat.compare_eq_lt.mpr (by omega), if_neg (by omega)]
    rfl
  · -- The only tie, which is decided by what is appended if anything is.
    rw [Nat.compare_eq_eq.mpr (rfl : 2 * r = 2 * r)]
    rcases Nat.eq_zero_or_pos b with rfl | hpos
    · rw [Nat.add_zero, ← Nat.mul_assoc, Nat.compare_eq_eq.mpr rfl, if_neg (by omega)]
      rfl
    · have happended : 2 * r * 2 ^ s < 2 * (r * 2 ^ s + b) := by omega
      rw [Nat.compare_eq_gt.mpr happended]
      dsimp only
      split <;> omega
  · have hle : half * 2 ^ s ≤ r * 2 ^ s := Nat.mul_le_mul_right _ hgt.le
    have hlt : half * 2 ^ s < r * 2 ^ s := Nat.mul_lt_mul_of_pos_right hgt hpow
    have happended : 2 * half * 2 ^ s < 2 * (r * 2 ^ s + b) := by omega
    rw [Nat.compare_eq_gt.mpr happended, Nat.compare_eq_gt.mpr (by omega), if_neg (by omega)]

/-- An integer in the middle between two neighbours of 53 bits, of which the lower is even. -/
def IsLowTie (n : Nat) : Prop := ∃ q e, 2 ^ 51 ≤ q ∧ q < 2 ^ 52 ∧ n = (4 * q + 1) * 2 ^ e

theorem log2_lowTie {q : Nat} (hlow : 2 ^ 51 ≤ q) (hhigh : q < 2 ^ 52) (e : Nat) :
    ((4 * q + 1) * 2 ^ e).log2 = 53 + e := by
  have hbits : (4 * q + 1).log2 = 53 := (Nat.log2_eq_iff (by omega)).mpr (by omega)
  rw [log2_mul_two_pow (by omega), hbits]

theorem isLowTie_iff {e : Nat} (he : n.log2 = 53 + e) :
    IsLowTie n ↔ n % (2 * 2 ^ e) = 2 ^ e ∧ n / (2 * 2 ^ e) % 2 = 0 := by
  have hpow := Nat.two_pow_pos e
  have hne : n ≠ 0 := by
    rintro rfl
    rw [Nat.log2_zero] at he
    omega
  constructor
  · rintro ⟨q, e', hlow, hhigh, rfl⟩
    obtain rfl : e = e' := by
      have hlog := log2_lowTie hlow hhigh e'
      omega
    have hsplit : (4 * q + 1) * 2 ^ e = 2 * 2 ^ e * (2 * q) + 2 ^ e := by ring
    rw [hsplit, Nat.mul_add_mod, Nat.mul_add_div (by omega), Nat.mod_eq_of_lt (by omega),
      Nat.div_eq_of_lt (by omega)]
    omega
  · rintro ⟨hrest, heven⟩
    have hsplit := Nat.div_add_mod n (2 * 2 ^ e)
    have hlow := Nat.log2_self_le hne
    have hhigh : n < 2 ^ (n.log2 + 1) := Nat.lt_log2_self
    rw [he] at hlow hhigh
    have hquotient : 2 ^ 52 ≤ n / (2 * 2 ^ e) ∧ n / (2 * 2 ^ e) < 2 ^ 53 := by
      rw [Nat.le_div_iff_mul_le (by omega), Nat.div_lt_iff_lt_mul (by omega)]
      rw [Nat.pow_add] at hlow
      rw [Nat.add_right_comm, Nat.pow_add] at hhigh
      omega
    obtain ⟨q, hq⟩ : ∃ q, n / (2 * 2 ^ e) = 2 * q := ⟨n / (2 * 2 ^ e) / 2, by omega⟩
    refine ⟨q, e, by omega, by omega, ?_⟩
    rw [← hsplit, hrest, hq]
    ring

theorem isLowTie_mul_two_pow_iff (hn : 2 ^ 53 ≤ n) : IsLowTie (n * 2 ^ s) ↔ IsLowTie n := by
  constructor
  · rintro ⟨q, e, hlow, hhigh, heq⟩
    have hle : 53 ≤ n.log2 := (Nat.le_log2 (by omega)).mpr hn
    have hlog := log2_mul_two_pow (n := n) (by omega) s
    rw [heq, log2_lowTie hlow hhigh] at hlog
    obtain ⟨rest, rfl⟩ : ∃ rest, e = rest + s := ⟨e - s, by omega⟩
    rw [Nat.pow_add, ← Nat.mul_assoc] at heq
    exact ⟨q, rest, hlow, hhigh, Nat.eq_of_mul_eq_mul_right (Nat.two_pow_pos s) heq⟩
  · rintro ⟨q, e, hlow, hhigh, rfl⟩
    exact ⟨q, e + s, hlow, hhigh, by rw [Nat.mul_assoc, ← Nat.pow_add]⟩

open Classical in
/-- Appended bits move the nearest code by runs, and by one more if they tell against a tie. -/
theorem codeOf_mul_two_pow_add (hn : 2 ^ 53 ≤ n) (hb : b < 2 ^ s) :
    codeOf ((n * 2 ^ s + b : Nat) : ℚ) =
      codeOf n + s * runLength + if 0 < b ∧ IsLowTie n then 1 else 0 := by
  have hlog : 53 ≤ n.log2 := (Nat.le_log2 (by omega)).mpr hn
  obtain ⟨e, he⟩ : ∃ e, n.log2 = 53 + e := ⟨n.log2 - 53, by omega⟩
  have hlarge : 2 ^ 52 ≤ n * 2 ^ s + b := by
    have := Nat.le_mul_of_pos_right n (Nat.two_pow_pos s)
    omega
  have hstep : 2 ^ (53 + e + s - 52) = 2 * 2 ^ e * 2 ^ s := by
    have hexponent : 53 + e + s - 52 = 1 + e + s := by omega
    rw [hexponent, Nat.pow_add, Nat.pow_add, Nat.pow_one]
  have hstep' : 2 ^ (53 + e - 52) = 2 * 2 ^ e := by
    have hexponent : 53 + e - 52 = 1 + e := by omega
    rw [hexponent, Nat.pow_add, Nat.pow_one]
  have hruns : 53 + e + s - 52 + 1074 = 53 + e - 52 + 1074 + s := by omega
  rw [codeOf_natCast_eq hlarge, codeOf_natCast_eq (by omega), log2_mul_two_pow_add (by omega) hb, he,
    hstep, hstep', roundQuotient_mul_two_pow_add n (Nat.two_pow_pos e) hb, hruns, Nat.add_mul,
    isLowTie_iff he]
  by_cases htie : 0 < b ∧ n % (2 * 2 ^ e) = 2 ^ e ∧ n / (2 * 2 ^ e) % 2 = 0
  · rw [if_pos htie, if_pos htie]
    omega
  · rw [if_neg htie, if_neg htie]
    omega

theorem codeOf_mul_two_pow (hn : 2 ^ 53 ≤ n) (s : Nat) :
    codeOf ((n * 2 ^ s : Nat) : ℚ) = codeOf n + s * runLength := by
  have happended := codeOf_mul_two_pow_add hn (Nat.two_pow_pos s)
  rwa [Nat.add_zero, if_neg (by simp), Nat.add_zero] at happended

/-- An integer that is greater than a multiple by less than the multiple's power of two is rounded
like it, unless the multiple is a tie that is in range. -/
theorem ofNat_mul_two_pow_add_eq_iff (hn : 2 ^ 53 ≤ n) (hb : b < 2 ^ s) :
    ofNat (n * 2 ^ s + b) = ofNat (n * 2 ^ s) ↔
      ¬(0 < b ∧ IsLowTie (n * 2 ^ s) ∧ (ofNat (n * 2 ^ s)).isFinite) := by
  have hcodes : ofNat (n * 2 ^ s + b) = ofNat (n * 2 ^ s) ↔
      min (codeOf ((n * 2 ^ s + b : Nat) : ℚ)) top = min (codeOf ((n * 2 ^ s : Nat) : ℚ)) top := by
    rw [← code_ofNat, ← code_ofNat]
    exact ⟨congrArg code, code_injective⟩
  rw [hcodes, isFinite_iff, code_ofNat, isLowTie_mul_two_pow_iff hn, codeOf_mul_two_pow_add hn hb,
    codeOf_mul_two_pow hn]
  split
  · next htie =>
    simp only [htie, true_and]
    omega
  · next hnone => simp [← and_assoc, hnone]

/-! ## Rounding again -/

/-- A number moves by runs when it is doubled. -/
theorem valueOf_add_mul_runLength {code : Nat} (h : runLength ≤ code) (k : Nat) :
    valueOf (code + k * runLength) = valueOf code * 2 ^ k := by
  obtain ⟨e, m, hcode, hrun, hm, -⟩ := exists_run code
  have hrun' : runLength ≤ m := by
    rcases hrun with rfl | hle
    · omega
    · exact hle
  have hmoved : code + k * runLength = (e + k) * runLength + m := by
    rw [hcode]
    ring
  rw [valueOf, valueOf, hmoved, unitsOf_run (.inr hrun') hm.le, hcode, unitsOf_run hrun hm.le]
  push_cast
  ring

theorem gap_add_mul_runLength {code : Nat} (h : runLength ≤ code) (k : Nat) :
    gap (code + k * runLength) = gap code * 2 ^ k := by
  have hdiv : 1 ≤ code / runLength := (Nat.le_div_iff_mul_le runLength_pos).mpr (by omega)
  have hexponent : code / runLength + k - 1 = code / runLength - 1 + k := by omega
  rw [gap, gap, Nat.add_mul_div_right _ _ runLength_pos, hexponent, Nat.pow_add]

/-- Integers of more than 53 bits are at least two apart. -/
theorem two_mul_perOne_le_gap {code : Nat} (h : 2 ^ 53 ≤ valueOf code) :
    2 * perOne ≤ gap code := by
  have hunits : 2 * runLength * perOne ≤ unitsOf code := by
    have hle := mul_le_mul_of_nonneg_right h perOne_pos'.le
    rw [valueOf_mul_perOne] at hle
    have hcast : ((2 * runLength * perOne : Nat) : ℚ) = 2 ^ 53 * perOne := by
      rw [Nat.cast_mul, Nat.cast_mul, runLength_cast]
      norm_num
    exact_mod_cast hcast.trans_le hle
  have hlt : 2 * runLength * perOne < 2 * runLength * gap code :=
    (hunits.trans_lt (unitsOf_strictMono (Nat.lt_add_one code))).trans_le (unitsOf_succ_le code)
  have hgap : perOne < gap code := Nat.lt_of_mul_lt_mul_left hlt
  obtain ⟨z, hone⟩ := exists_perOne_eq
  rw [hone, gap, Nat.pow_lt_pow_iff_right (by decide)] at hgap
  rw [hone, gap, ← Nat.pow_succ']
  exact Nat.pow_le_pow_right (by decide) hgap

/-- What is less than half a step is lost. -/
theorem codeOf_valueOf_add {code : Nat} {d : ℚ} (hd : 0 ≤ d) (h : 2 * d * perOne < gap code) :
    codeOf (valueOf code + d) = code := by
  refine codeOf_eq_of_lt (add_nonneg (valueOf_nonneg code) hd) ?_ ?_
  · rintro below rfl
    linarith [valueOf_strictMono (Nat.lt_add_one below)]
  · have hnext := valueOf_succ_mul_perOne code
    refine lt_of_mul_lt_mul_right ?_ perOne_pos'.le
    linarith

theorem runLength_le_codeOf (hn : 2 ^ 52 ≤ n) : runLength ≤ codeOf n := by
  rw [codeOf_natCast_eq hn, Nat.add_mul]
  have hle : 1 * runLength ≤ 1074 * runLength := Nat.mul_le_mul_right _ (by decide)
  omega

theorem codeOf_natCast_mono {m n : Nat} (h : m ≤ n) : codeOf m ≤ codeOf n :=
  codeOf_mono (Nat.cast_nonneg m) (by exact_mod_cast h)

/-- Bits that are appended to a rounded integer of more than 53 bits are lost. -/
theorem codeOf_valueOf_mul_two_pow_add (hn : 2 ^ 53 ≤ n) (hb : b < 2 ^ k) :
    codeOf (valueOf (codeOf n + k * runLength) + b) = codeOf n + k * runLength := by
  have hlarge : (2 : ℚ) ^ 53 ≤ valueOf (codeOf n) := by
    have hexact := valueOf_codeOf_natCast (le_refl (2 ^ 53))
    have hmono := valueOf_strictMono.monotone (codeOf_natCast_mono hn)
    rw [hexact] at hmono
    exact_mod_cast hmono
  have hlost : 2 * b * perOne < gap (codeOf n + k * runLength) := by
    rw [gap_add_mul_runLength (runLength_le_codeOf (by omega))]
    calc 2 * b * perOne = 2 * perOne * b := Nat.mul_right_comm 2 b perOne
      _ ≤ gap (codeOf n) * b := Nat.mul_le_mul_right b (two_mul_perOne_le_gap hlarge)
      _ < gap (codeOf n) * 2 ^ k := Nat.mul_lt_mul_of_pos_left hb (gap_pos _)
  exact codeOf_valueOf_add (Nat.cast_nonneg b) (by exact_mod_cast hlost)

end Magnitude

end TableQuery
