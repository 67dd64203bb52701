import TableQuery.Proofs.Number.Distance

/-!
# Rounded powers of ten

How far the powers of ten are from their nearest codes is a matter of
computation. It does not take the nearest codes themselves: a multiple of a
power of two that is as close as the bound says is enough, for no code is closer
than the nearest one. Powers of ten are rounded better than the format promises.
-/

namespace TableQuery.Magnitude

/-- Powers compare like two fixed powers of the same bases, if their exponents do. -/
theorem pow_le_pow_of_ratio {x y p q : Nat} (hx : 0 < x) (hp : p ≠ 0) (h : x ^ q ≤ y ^ p)
    {a b : Nat} (hab : a * p ≤ q * b) : x ^ a ≤ y ^ b := by
  have hpower : (x ^ a) ^ p ≤ (y ^ b) ^ p := by
    calc (x ^ a) ^ p = x ^ (a * p) := (Nat.pow_mul ..).symm
      _ ≤ x ^ (q * b) := Nat.pow_le_pow_right hx hab
      _ = (x ^ q) ^ b := Nat.pow_mul ..
      _ ≤ (y ^ p) ^ b := Nat.pow_le_pow_left h b
      _ = (y ^ b) ^ p := by rw [← Nat.pow_mul, ← Nat.pow_mul, Nat.mul_comm]
  exact le_of_pow_le_pow_left₀ hp (Nat.zero_le _) hpower

theorem two_pow_le_ten_pow {a b : Nat} (h : a * 28 ≤ 93 * b) : 2 ^ a ≤ 10 ^ b :=
  pow_le_pow_of_ratio (p := 28) (q := 93) (by decide) (by decide) (by norm_num) h

/-- The exponent of the last of the 53 leading bits of a power of ten; `108853 / 32768` is close to
the binary logarithm of ten. -/
def tenPowExponent (k : Nat) : Nat := k * 108853 / 32768 - 52

/-- The leading bits of a power of ten, as an integer. -/
def tenPowMultiple (k : Nat) : Nat :=
  (2 * 10 ^ k + 2 ^ tenPowExponent k) / (2 * 2 ^ tenPowExponent k)

/-- The leading bits of all powers of ten in range, and with less error those of the last one. -/
theorem tenPowMultiple_error :
    (∀ k < 309, tenPowMultiple k ≤ 2 ^ 53 ∧
      2 ^ 53 * 100 * (tenPowMultiple k * 2 ^ tenPowExponent k) ≤ (2 ^ 53 * 100 + 91) * 10 ^ k ∧
      2 ^ 53 * 100 * 10 ^ k ≤
        2 ^ 53 * 100 * (tenPowMultiple k * 2 ^ tenPowExponent k) + 91 * 10 ^ k) ∧
    2 ^ 53 * 1000 * (tenPowMultiple 308 * 2 ^ tenPowExponent 308) ≤
        (2 ^ 53 * 1000 + 99) * 10 ^ 308 ∧
      2 ^ 53 * 1000 * 10 ^ 308 ≤
        2 ^ 53 * 1000 * (tenPowMultiple 308 * 2 ^ tenPowExponent 308) + 99 * 10 ^ 308 := by
  decide +kernel

/-- The value that a power of ten is rounded to. -/
def tenPow (k : Nat) : ℚ := valueOf (codeOf (10 ^ k))

/-- A power of ten is rounded at least as well as to its leading bits. -/
theorem tenPow_error_of {k parts bound : Nat} (hpos : 0 < parts)
    (hmultiple : tenPowMultiple k ≤ 2 ^ 53)
    (hhigh : parts * (tenPowMultiple k * 2 ^ tenPowExponent k) ≤ (parts + bound) * 10 ^ k)
    (hlow : parts * 10 ^ k ≤
      parts * (tenPowMultiple k * 2 ^ tenPowExponent k) + bound * 10 ^ k) :
    |tenPow k - 10 ^ k| * parts ≤ bound * 10 ^ k := by
  obtain ⟨leading, hleading⟩ : ∃ leading : ℚ,
      leading = tenPowMultiple k * 2 ^ tenPowExponent k := ⟨_, rfl⟩
  have hclosest : |tenPow k - 10 ^ k| ≤ |leading - 10 ^ k| := by
    have hle := abs_valueOf_codeOf_sub_le_abs (x := (10 : ℚ) ^ k) (by positivity) (codeOf leading)
    rwa [hleading, valueOf_codeOf_mul_two_pow hmultiple, ← hleading] at hle
  have hhigh' : parts * leading ≤ (parts + bound) * 10 ^ k := by
    rw [hleading]
    exact_mod_cast hhigh
  have hlow' : (parts * 10 ^ k : ℚ) ≤ parts * leading + bound * 10 ^ k := by
    rw [hleading]
    exact_mod_cast hlow
  have hparts : (0 : ℚ) < parts := Nat.cast_pos.mpr hpos
  have herror : |leading - 10 ^ k| * parts ≤ bound * 10 ^ k := by
    rw [← le_div_iff₀ hparts, abs_le, ← neg_div, div_le_iff₀ hparts, le_div_iff₀ hparts]
    constructor <;> linarith
  exact (mul_le_mul_of_nonneg_right hclosest hparts.le).trans herror

theorem tenPow_error {k : Nat} (h : k ≤ 308) :
    |tenPow k - 10 ^ k| * (2 ^ 53 * 100) ≤ 91 * 10 ^ k := by
  obtain ⟨hmultiple, hhigh, hlow⟩ := tenPowMultiple_error.1 k (by omega)
  exact_mod_cast tenPow_error_of (by decide) hmultiple hhigh hlow

theorem tenPow_error_last : |tenPow 308 - 10 ^ 308| * (2 ^ 53 * 1000) ≤ 99 * 10 ^ 308 := by
  obtain ⟨hall, hhigh, hlow⟩ := tenPowMultiple_error
  obtain ⟨hmultiple, -, -⟩ := hall 308 (by decide)
  exact_mod_cast tenPow_error_of (by decide) hmultiple hhigh hlow

theorem tenPow_eq {k : Nat} (h : k ≤ 22) : tenPow k = 10 ^ k := valueOf_codeOf_ten_pow h

theorem one_le_tenPow (k : Nat) : 1 ≤ tenPow k := by
  have hone : valueOf (codeOf 1) = 1 := by
    simpa using valueOf_codeOf_natCast (n := 1) (by decide)
  calc (1 : ℚ) = valueOf (codeOf 1) := hone.symm
    _ ≤ tenPow k := valueOf_strictMono.monotone (codeOf_mono zero_le_one (one_le_pow₀ (by norm_num)))

end TableQuery.Magnitude
