import TableQuery.Proofs.Json.Scale
import TableQuery.Proofs.Number.Integral
import TableQuery.Row.Json

/-!
# Numbers printed and read back

The text of a finite number is always read as a number. It has the same sign and
is at most two places away on the number line, because scaling rounds two or
three times where one rounding would do. Integers below `10 ^ 16` come back as
they are, and so do numbers whose significant digits and power of ten are both
numbers themselves.
-/

namespace TableQuery

namespace Magnitude

/-- Magnitudes that are kept when they are printed and read back: integers of up to sixteen digits,
and decimals in which neither the significant digits nor the power of ten have to be rounded. -/
def IsKept (m : Magnitude) : Prop :=
  (∃ x, m.toNat? = some x ∧ x < 10 ^ 16) ∨
    Decimal.ofDigits (m.shortestDigits .toEven).digits ≤ 2 ^ 53 ∧
      ((m.shortestDigits .toEven).lead + 1 - (m.shortestDigits .toEven).digits.length).natAbs ≤ 22

/-- How a magnitude may come back from its text. -/
structure Rereads (m p : Magnitude) : Prop where
  isFinite : p.isFinite
  le_add_two : p.code ≤ m.code + 2
  add_two_le : m.code ≤ p.code + 2
  eq_of_isKept : m.IsKept → p = m

theorem Rereads.refl {m : Magnitude} (h : m.isFinite) : m.Rereads m :=
  ⟨h, Nat.le_add_right _ _, Nat.le_add_right _ _, fun _ => rfl⟩

end Magnitude

namespace Json

open Magnitude Lexeme

variable {m : Magnitude} {s : Nat} {e : Int}

/-- Digits that are not padded are scaled as they are. -/
theorem exists_rereads_of_long (hfinite : m.isFinite)
    (hlarge : ∀ x, m.toNat? = some x → 2 ^ 53 < x)
    (hdigits : m.shortestDigits .toEven =
      ⟨Nat.toDigits 10 s, e + (Nat.toDigits 10 s).length - 1⟩)
    (hcode : codeOf (s * 10 ^ e) = m.code) (hs : 0 < s) (hs' : s ≤ 10 ^ 17) (hlow : -340 ≤ e)
    (hlong : e < 0 ∨ 16 < (Nat.toDigits 10 s).length + e) :
    ∃ p, Numeral.scale 5 (.ofNat s) e = some (.signed false p) ∧ m.Rereads p := by
  have hrange : codeOf ((s : ℚ) * 10 ^ e) < top := hcode ▸ isFinite_iff.mp hfinite
  have hlast : e = 292 → s ≤ 17976931348623157 := by
    rintro rfl
    exact le_of_shortestDigits_eq hfinite (by exact_mod_cast hcode) hdigits
  obtain ⟨p, hp⟩ := Numeral.exists_scales hs hs' (by omega) hrange hlast
  refine ⟨p, hp.scaled, hp.isFinite, hcode ▸ hp.le_add_two, hcode ▸ hp.add_two_le, ?_⟩
  rintro (⟨x, hx, hsmall⟩ | ⟨hshort, hexponent⟩)
  · -- All digits of such an integer stand before the point, and they are padded.
    obtain ⟨zeros, rfl, hvalue⟩ := exists_eq_of_shortestDigits_eq
      (toNat?_eq_some_iff.mp hx).2 hfinite (hlarge x hx).le (by omega) hdigits
    have hpadded : zeros < 16 := by
      refine lt_of_ten_pow_lt (lt_of_le_of_lt ?_ hsmall)
      rw [← hvalue]
      exact Nat.le_mul_of_pos_left _ hs
    have hlength : (Nat.toDigits 10 s).length ≤ 16 - zeros := by
      rw [Nat.length_toDigits_le_iff (by decide) (by omega)]
      refine Nat.lt_of_mul_lt_mul_right (a := 10 ^ zeros) ?_
      rwa [hvalue, ← Nat.pow_add, Nat.sub_add_cancel hpadded.le]
    omega
  · rw [hdigits, Decimal.ofDigits_toDigits] at hshort
    rw [hdigits] at hexponent
    exact code_injective ((hp.exact_of_short hshort (by simpa using hexponent)).trans hcode)

theorem lt_of_length_toDigits {zeros : Nat} (h : (Nat.toDigits 10 s).length + zeros ≤ 16) :
    s * 10 ^ zeros < 10 ^ 16 := by
  have hs : s < 10 ^ (16 - zeros) := by
    have hlength := Nat.length_toDigits_pos (b := 10) (n := s)
    rw [← Nat.length_toDigits_le_iff (by decide) (by omega)]
    omega
  have hlt := Nat.mul_lt_mul_of_pos_right hs (Nat.pow_pos (n := zeros) (by decide : 0 < 10))
  rwa [← Nat.pow_add, Nat.sub_add_cancel (by omega)] at hlt

/-- A magnitude that is no integer of up to 53 bits is even if an integer below `10 ^ 16` is rounded
to it. -/
theorem exists_even_of_codeOf_eq (hfinite : m.isFinite) (hlarge : ∀ x, m.toNat? = some x → 2 ^ 53 < x)
    {y : Nat} (hcode : codeOf (y : ℚ) = m.code) (hsmall : y < 10 ^ 16) :
    ∃ j : Nat, m.value = (2 * j : Nat) ∧ 2 ^ 53 < 2 * j ∧ 2 * j < 2 ^ 54 := by
  have hvalue : m.value = valueOf (codeOf (y : ℚ)) := by rw [hcode, value]
  have hlow : 2 ^ 53 < y := by
    by_contra hle
    rw [valueOf_codeOf_natCast (not_lt.mp hle)] at hvalue
    exact hle (hlarge y (toNat?_eq_some_iff.mpr ⟨hfinite, hvalue⟩))
  have hlow' : (2 ^ 53 : ℚ) ≤ m.value := by
    have hmono := valueOf_strictMono.monotone
      (codeOf_mono (x := (2 ^ 53 : Nat)) (y := y) (Nat.cast_nonneg _) (Nat.cast_le.mpr hlow.le))
    rw [valueOf_codeOf_natCast le_rfl, ← hvalue] at hmono
    exact_mod_cast hmono
  obtain ⟨j, hj⟩ := exists_even hlow'
  refine ⟨j, hj, hlarge _ (toNat?_eq_some_iff.mpr ⟨hfinite, hj⟩), ?_⟩
  have hmono := valueOf_strictMono.monotone
    (codeOf_mono (y := (2 * (5 * 10 ^ 15) : Nat)) (Nat.cast_nonneg _) (Nat.cast_le.mpr hsmall.le))
  rw [valueOf_codeOf_two_mul (by norm_num), ← hvalue, hj] at hmono
  have hle : 2 * j ≤ 2 * (5 * 10 ^ 15) := by exact_mod_cast hmono
  omega

/-- Digits that are padded are those of an integer, and another zero does not change what they are
read as. -/
theorem scale_of_padded (hfinite : m.isFinite)
    (hlarge : ∀ x, m.toNat? = some x → 2 ^ 53 < x)
    (hdigits : m.shortestDigits .toEven =
      ⟨Nat.toDigits 10 s, e + (Nat.toDigits 10 s).length - 1⟩)
    (hcode : codeOf (s * 10 ^ e) = m.code) {zeros : Nat} (he : e = zeros)
    (hlength : (Nat.toDigits 10 s).length + zeros ≤ 16) :
    Numeral.scale 5 (.ofNat (s * 10 ^ (zeros + 1))) (-1) = some (.signed false m) := by
  obtain ⟨y, hy⟩ : ∃ y, s * 10 ^ zeros = y := ⟨_, rfl⟩
  have hsmall : y < 10 ^ 16 := hy ▸ lt_of_length_toDigits hlength
  have hcode' : codeOf (y : ℚ) = m.code := by
    rw [← hcode, ← hy, he, zpow_natCast]
    push_cast
    rfl
  obtain ⟨j, hj, hj53, hj54⟩ := exists_even_of_codeOf_eq hfinite hlarge hcode' hsmall
  -- So the integer is the magnitude.
  obtain ⟨zeros', he', hvalue⟩ :=
    exists_eq_of_shortestDigits_eq hj hfinite hj53.le hj54 hdigits
  obtain rfl : zeros' = zeros := by omega
  obtain rfl : y = 2 * j := by omega
  have hten : s * 10 ^ (zeros' + 1) = 2 * j * 10 := by rw [Nat.pow_succ, ← Nat.mul_assoc, hy]
  obtain ⟨x, hx, hxfinite, hxcode⟩ := Numeral.ofNat_eq (n := 2 * j * 10) (by omega)
  obtain ⟨p, hp, -, hpcode⟩ := Numeral.scale_div hxfinite (k := 1) (by decide) (by decide) 4
  rw [value, hxcode, codeOf_tenfold_div (by omega) hsmall, hcode'] at hpcode
  rw [hten, hx, ← code_injective hpcode]
  exact hp

/-- A number that is not written as an integer is read again. -/
theorem Numeral.exists_rereads_real (hpos : m.code ≠ 0) (hfinite : m.isFinite)
    (hlarge : ∀ x, m.toNat? = some x → 2 ^ 53 < x) (negative : Bool) :
    ∃ p, m.Rereads p ∧
      (Numeral.real (.signed negative m)).ReadsAs (.ok (.real (.signed negative p))) := by
  obtain ⟨s, e, hdigits, hcode, hs, hs', hlow⟩ := shortestDigits_spec .toEven hpos hfinite
  obtain ⟨l, text, rfl, hwrites, hrender⟩ := exists_writes_real hpos hfinite negative hs hdigits
  obtain ⟨p, hsignificand, hscale, hp⟩ : ∃ p, l.significand < 1 <<< 64 ∧
      scale 5 (.ofNat l.significand) l.scale = some (.signed false p) ∧ m.Rereads p := by
    rcases hwrites.scaled with ⟨hsame, hscale, hlong⟩ | ⟨zeros, he, hlength, hsame, hscale⟩
    · obtain ⟨p, hp, hrereads⟩ :=
        exists_rereads_of_long hfinite hlarge hdigits hcode hs hs' hlow hlong
      exact ⟨p, by omega, by rw [hsame, hscale, hp], hrereads⟩
    · have hsmall := lt_of_length_toDigits hlength
      have hscaled := scale_of_padded hfinite hlarge hdigits hcode he hlength
      refine ⟨m, ?_, by rw [hsame, hscale, hscaled], .refl hfinite⟩
      rw [hsame, Nat.pow_succ, ← Nat.mul_assoc]
      omega
  refine ⟨p, hp, ?_⟩
  have hreading : l.reading = .ok (.real (.signed l.negative p)) := by
    rw [reading, ofLexeme?_eq hwrites.isReal hsignificand, hscale]
    cases l.negative <;> rfl
  exact hreading ▸ readsAs_of_render_eq hwrites.wellFormed hrender

/-! ## The numbers of cells -/

end Json

namespace Number

/-- How a number may come back from its text. -/
structure Rereads (x y : Number) : Prop where
  isFinite : y.isFinite
  near : ∃ a b : Int, x.place = some a ∧ y.place = some b ∧ (a - b).natAbs ≤ 2 ∧ 0 ≤ a * b
  numericEq_of_isKept : ∀ negative m, x = .signed negative m → m.IsKept → x.numericEq y

variable {x y : Number} {a b : Int}

theorem Rereads.of_place_eq (hfinite : y.isFinite) (hx : x.place = some a)
    (hy : y.place = some a) : x.Rereads y :=
  ⟨hfinite, ⟨a, a, hx, hy, by simp, mul_self_nonneg a⟩,
    fun _ _ _ _ => (numericEq_iff hx hy).mpr rfl⟩

theorem rereads_signed {m p : Magnitude} (h : m.Rereads p) (negative : Bool) :
    (signed negative m).Rereads (signed negative p) := by
  have hle := h.le_add_two
  have hge := h.add_two_le
  refine ⟨h.isFinite, ⟨_, _, place_signed negative m, place_signed negative p, ?_, ?_⟩, ?_⟩
  · split <;> omega
  · split
    · rw [neg_mul_neg]
      positivity
    · positivity
  · rintro _ _ ⟨⟩ hkept
    rw [h.eq_of_isKept hkept]
    exact (numericEq_iff (place_signed negative m) (place_signed negative m)).mpr rfl

end Number

namespace Json.Numeral

open Magnitude

/-- What the text of a numeral is read as. -/
def reread (n : Numeral) : Except Fault Numeral :=
  match (Draft.scanValue 1 n.render).value with
  | .numeral reading => reading
  | _ => .error .malformed

theorem ReadsAs.reread_eq {n : Numeral} {reading : Except Fault Numeral} (h : n.ReadsAs reading) :
    n.reread = reading := by
  have hscan := h.scanned EndsNumber.nil 0
  rw [List.append_nil] at hscan
  rw [reread, hscan]

/-- Integers of up to 63 bits are read as they are. -/
theorem readsAs_integer {n : Int} (h : n.natAbs ≤ 1 <<< 63) :
    (integer n).ReadsAs (.ok (integer n)) := by
  have hreading : Lexeme.reading ⟨decide (n < 0), Nat.toDigits 10 n.natAbs, none, none⟩ =
      .ok (integer n) := by
    rw [Lexeme.reading, ofLexeme?_integer h]
  rw [← hreading]
  refine readsAs_of_render_eq ⟨isDigits_toDigits _, ?_, by simp, by simp⟩ ?_
  · rcases Nat.eq_zero_or_pos n.natAbs with hzero | hpos
    · exact .inl (by rw [hzero]; rfl)
    · exact .inr (Decimal.head?_toDigits_ne hpos)
  · by_cases hneg : n < 0 <;>
      simp [render, Lexeme.text, Lexeme.unsignedText, Lexeme.fractionText, Lexeme.exponentText, hneg]

theorem ofNat_eq_of_toNat? {m : Magnitude} {x : Nat} (h : m.toNat? = some x) :
    Magnitude.ofNat x = m := by
  obtain ⟨-, hvalue⟩ := toNat?_eq_some_iff.mp h
  refine code_injective ?_
  rw [code_ofNat, ← hvalue, value, codeOf_valueOf]
  exact Nat.min_eq_left m.code_le_top

/-- An integral number is the number of its integer, but for the sign of a zero. -/
theorem rereads_ofInt {m : Magnitude} (negative : Bool) {n : Nat} (h : m.toNat? = some n) {i : Int}
    (hi : i = if negative then -(n : Int) else n) :
    (Number.signed negative m).Rereads (.ofInt i) := by
  have habs : i.natAbs = n := by
    rw [hi]
    cases negative <;> simp
  obtain ⟨hfinite, hvalue⟩ := toNat?_eq_some_iff.mp h
  have hzero : n = 0 → m.code = 0 := by
    rintro rfl
    by_contra hpos
    exact (value_pos_iff.mpr hpos).ne' (by rw [hvalue, Nat.cast_zero])
  rw [Number.ofInt, habs, ofNat_eq_of_toNat? h]
  refine .of_place_eq hfinite (Number.place_signed negative m) ?_
  rw [Number.place_signed]
  cases negative <;> simp only [Bool.false_eq_true, if_true, if_false, decide_eq_true_eq] at hi ⊢ <;>
    split <;> congr 1 <;> omega

/-- A number that is no integer of up to 53 bits is written with a point or an exponent, and its text
is read as a number again. -/
theorem exists_rereads_of_large {m : Magnitude} (hfinite : m.isFinite)
    (hlarge : ∀ x, m.toNat? = some x → 2 ^ 53 < x) (negative : Bool) :
    ∃ n' : Numeral, (real (.signed negative m)).ReadsAs (.ok n') ∧
      (Number.signed negative m).Rereads n'.toNumber := by
  have hpos : m.code ≠ 0 := by
    intro hzero
    have hnat : m.toNat? = some 0 := by
      rw [code_injective (n := .zero) hzero]
      rfl
    exact absurd (hlarge 0 hnat) (by decide)
  obtain ⟨p, hp, hreads⟩ := exists_rereads_real hpos hfinite hlarge negative
  exact ⟨_, hreads, Number.rereads_signed hp negative⟩

/-- A finite number is written as a numeral, and its text is read as a number again. -/
theorem exists_rereads {x : Number} (hfinite : x.isFinite) :
    ∃ n n' : Numeral, Cell.numberToJson x = .numeral n ∧ n.ReadsAs (.ok n') ∧
      x.Rereads n'.toNumber := by
  cases x with
  | nan => cases hfinite
  | signed negative m =>
      have hm : m.isFinite = true := hfinite
      cases hnat : m.toNat? with
      | none =>
          obtain ⟨n', hreads, hrereads⟩ := exists_rereads_of_large hm (by simp [hnat]) negative
          refine ⟨_, n', ?_, hreads, hrereads⟩
          simp [Cell.numberToJson, hnat, hm]
      | some n =>
          by_cases hsafe : n ≤ Cell.greatestSafeInteger
          · have hsmall : n ≤ 1 <<< 63 := hsafe.trans (by decide)
            refine ⟨.integer (if negative then -(n : Int) else n), _, ?_,
              readsAs_integer (by cases negative <;> simpa using hsmall),
              rereads_ofInt negative hnat rfl⟩
            simp [Cell.numberToJson, hnat, hsafe, hm]
          · obtain ⟨n', hreads, hrereads⟩ := exists_rereads_of_large hm
              (by simpa [hnat, Cell.greatestSafeInteger] using hsafe) negative
            refine ⟨_, n', ?_, hreads, hrereads⟩
            simp [Cell.numberToJson, hnat, hsafe, hm]

end Json.Numeral

end TableQuery
