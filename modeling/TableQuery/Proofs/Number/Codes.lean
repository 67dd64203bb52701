import Mathlib.Order.Monotone.Basic
import Mathlib.Tactic.Ring
import TableQuery.Number.Magnitude

/-!
# Codes and units

The codes fall into runs, and within a run the units go up in equal steps. So a
code is a run, told by its exponent, with a multiple `m` of the step `2 ^ e`:
`unitsOf (e * runLength + m) = m * 2 ^ e`, which holds up to `m = 2 * runLength`,
the first code of the next run. What is said about `unitsOf` is derived from this
equation. The step above a code is its `gap`; gaps never shrink.
-/

namespace TableQuery.Magnitude

theorem runLength_eq : runLength = 2 ^ 52 := rfl

theorem perOne_eq : perOne = 2 ^ 1074 := Nat.one_shiftLeft 1074

theorem runLength_pos : 0 < runLength := by decide

/-- How many units lie between a code and the next one. -/
def gap (code : Nat) : Nat := 2 ^ (code / runLength - 1)

theorem gap_pos (code : Nat) : 0 < gap code := Nat.two_pow_pos _

theorem gap_mono {a b : Nat} (h : a ≤ b) : gap a ≤ gap b :=
  Nat.pow_le_pow_right (by decide) (Nat.sub_le_sub_right (Nat.div_le_div_right h) 1)

/-- The units along one run; a run of single units has its multiples from zero on. -/
theorem unitsOf_run {e m : Nat} (h : e = 0 ∨ runLength ≤ m) (hm : m ≤ 2 * runLength) :
    unitsOf (e * runLength + m) = m * 2 ^ e := by
  have hpos := runLength_pos
  rcases Nat.lt_or_eq_of_le hm with hlt | rfl
  · rcases h with rfl | hle
    · rw [unitsOf, if_pos (by omega)]
      omega
    · obtain ⟨r, rfl⟩ := Nat.exists_eq_add_of_le hle
      have hr : r < runLength := by omega
      have hcode : e * runLength + (runLength + r) = r + runLength * (e + 1) := by ring
      rw [hcode, unitsOf, Nat.add_mul_div_left _ _ hpos, Nat.add_mul_mod_self_left,
        Nat.div_eq_of_lt hr, Nat.mod_eq_of_lt hr]
      split
      · next hsmall =>
        have he : e = 0 := by
          by_contra hne
          have : runLength * 2 ≤ runLength * (e + 1) := Nat.mul_le_mul_left _ (by omega)
          omega
        subst he
        omega
      · rw [Nat.zero_add, Nat.add_sub_cancel, Nat.shiftLeft_eq]
  · have hcode : e * runLength + 2 * runLength = 0 + runLength * (e + 2) := by ring
    have hlarge : ¬ 0 + runLength * (e + 2) < 2 * runLength := by
      have : runLength * 2 ≤ runLength * (e + 2) := Nat.mul_le_mul_left _ (by omega)
      omega
    rw [hcode, unitsOf, if_neg hlarge, Nat.add_mul_div_left _ _ hpos, Nat.add_mul_mod_self_left,
      Nat.zero_mod, Nat.zero_div, Nat.shiftLeft_eq]
    have hexponent : 0 + (e + 2) - 1 = e + 1 := by omega
    rw [hexponent, pow_succ]
    ring

/-- Every code lies on a run, before the end of it. -/
theorem exists_run (code : Nat) :
    ∃ e m, code = e * runLength + m ∧ (e = 0 ∨ runLength ≤ m) ∧ m < 2 * runLength ∧
      gap code = 2 ^ e := by
  have hpos := runLength_pos
  have hsplit := Nat.div_add_mod code runLength
  have hmod := Nat.mod_lt code hpos
  rcases Nat.eq_zero_or_pos (code / runLength) with hzero | hdiv
  · refine ⟨0, code, by omega, .inl rfl, ?_, ?_⟩
    · rw [hzero] at hsplit
      omega
    · rw [gap, hzero]
  · obtain ⟨e, he⟩ := Nat.exists_eq_add_of_le hdiv
    refine ⟨e, runLength + code % runLength, ?_, .inr (by omega), by omega, ?_⟩
    · rw [he] at hsplit
      rw [← hsplit, Nat.mul_add_mod]
      simp only [Nat.mod_mod]
      ring
    · rw [gap, he, Nat.add_sub_cancel_left]

theorem unitsOf_succ (code : Nat) : unitsOf (code + 1) = unitsOf code + gap code := by
  obtain ⟨e, m, hcode, hrun, hm, hgap⟩ := exists_run code
  have hnext : code + 1 = e * runLength + (m + 1) := by omega
  rw [hnext, unitsOf_run (by omega) hm, hgap, hcode, unitsOf_run hrun hm.le]
  exact Nat.succ_mul m (2 ^ e)

theorem unitsOf_strictMono : StrictMono unitsOf :=
  strictMono_nat_of_lt_succ fun code => by
    rw [unitsOf_succ]
    exact Nat.lt_add_of_pos_right (gap_pos code)

/-- A number is less than `2 ^ 53` of the steps above it. -/
theorem unitsOf_succ_le (code : Nat) : unitsOf (code + 1) ≤ 2 * runLength * gap code := by
  obtain ⟨e, m, hcode, hrun, hm, hgap⟩ := exists_run code
  have hnext : code + 1 = e * runLength + (m + 1) := by omega
  rw [hnext, unitsOf_run (by omega) hm, hgap]
  exact Nat.mul_le_mul_right _ hm

end TableQuery.Magnitude
