import TableQuery.Proofs.Cell.Literal
import TableQuery.Proofs.Json.NumberText
import TableQuery.Proofs.Number.Integral
import TableQuery.Proofs.Number.Range

/-!
# The text of a number in a cell is read as the number

The texts that numbers in cells are shown as are those of lexemes, in all four
ranges of magnitude: an integer with all its digits, a fraction with the point
among or before its digits, and an exponent. A lexeme's text is a literal for the
decimal that the lexeme stands for, and rounding this decimal gives the magnitude
back. Only the sign of a zero is not shown.
-/

namespace TableQuery

namespace Json.Lexeme

open Magnitude

variable {l : Lexeme} {m : Magnitude} {text : List Char} {s : Nat} {exponent : Int}

/-! ## A lexeme is a literal -/

theorem signText (l : Lexeme) :
    Decimal.SignText (if l.negative then ['-'] else []) l.negative := by
  cases l.negative with
  | true => exact .minus
  | false => exact .none

theorem WellFormed.mantissaText (hl : l.WellFormed) :
    Decimal.MantissaText (l.whole ++ fractionText l.fraction) (l.whole ++ l.fractionDigits)
      l.fractionDigits.length := by
  cases hfraction : l.fraction with
  | none =>
      rw [fractionDigits, hfraction, fractionText, Option.getD_none, List.append_nil]
      exact .whole hl.whole
  | some digits =>
      rw [fractionDigits, hfraction]
      exact .pointed (isDigits_append hl.whole (hl.fraction digits hfraction).2)

/-- The exponent that is written is the scale, but for the digits behind the point. -/
theorem WellFormed.exponentText (hl : l.WellFormed) :
    Decimal.ExponentText (exponentText l.exponent) (l.scale + l.fractionDigits.length) := by
  rw [scale, neg_add_cancel_comm]
  cases hexponent : l.exponent with
  | none => exact .none
  | some part =>
      obtain ⟨down, digits⟩ := part
      have hdigits := hl.exponent _ hexponent
      cases down with
      | true => exact .marked (.inl rfl) .minus hdigits
      | false => exact .marked (.inl rfl) .plus hdigits

theorem WellFormed.literal (hl : l.WellFormed) :
    Number.Literal l.text (.signed l.negative (.ofDecimal l.significand l.scale)) := by
  have hliteral := Number.Literal.decimal l.signText hl.mantissaText hl.exponentText
  rwa [List.append_assoc, Int.add_sub_cancel] at hliteral

/-! ## The texts of magnitudes -/

/-- A lexeme has the value of the digits that it is written for. -/
theorem Writes.value_eq (h : l.Writes text s exponent) :
    (l.significand : ℚ) * 10 ^ l.scale = s * 10 ^ exponent := by
  rcases h.scaled with ⟨hsignificand, hscale, -⟩ | ⟨zeros, rfl, -, hsignificand, hscale⟩
  · rw [hsignificand, hscale]
  · rw [hsignificand, hscale, zpow_natCast, zpow_neg_one]
    push_cast
    field_simp
    ring

/-- How a lexeme is written as a magnitude and read as one. -/
structure Denotes (l : Lexeme) (m : Magnitude) : Prop where
  wellFormed : l.WellFormed
  text_eq : l.unsignedText = Cell.numberLayout.magnitude m
  ofDecimal_eq : Magnitude.ofDecimal l.significand l.scale = m

theorem Writes.ofDecimal_eq (h : l.Writes text s exponent) (hs : 0 < s) (hlow : -340 ≤ exponent)
    (hfinite : m.isFinite) (hcode : codeOf (s * 10 ^ exponent) = m.code) :
    Magnitude.ofDecimal l.significand l.scale = m := by
  have hpos : 0 < l.significand := by
    have hvalue : (0 : ℚ) < l.significand * 10 ^ l.scale := by
      rw [h.value_eq]
      positivity
    exact_mod_cast pos_of_mul_pos_left hvalue (by positivity)
  refine ofDecimal_eq_of_codeOf_eq hpos ?_ hfinite (by rw [h.value_eq, hcode])
  rcases h.scaled with ⟨-, hscale, -⟩ | ⟨-, -, -, -, hscale⟩ <;> omega

/-- An integer is written without a point. -/
theorem exists_integer (negative : Bool) (hs : 0 < s) (zeros : Nat) :
    ∃ l : Lexeme, l.negative = negative ∧ l.WellFormed ∧
      l.unsignedText = Nat.toDigits 10 s ++ List.replicate zeros '0' ∧
      l.significand = s * 10 ^ zeros ∧ l.scale = 0 := by
  refine ⟨⟨negative, Nat.toDigits 10 s ++ List.replicate zeros '0', none, none⟩, rfl, ?_, ?_, ?_, rfl⟩
  · refine ⟨isDigits_append (isDigits_toDigits s) fun c hc => isDigit_of_mem_replicate hc, .inr ?_,
      by simp, by simp⟩
    rw [List.head?_append, Option.or_of_isSome (by simp [Nat.toDigits_ne_nil])]
    exact Decimal.head?_toDigits_ne hs
  · simp [unsignedText, fractionText, exponentText]
  · rw [significand, fractionDigits, Option.getD_none, List.append_nil,
      Decimal.ofDigits_append_replicate, Decimal.ofDigits_toDigits]

/-- An integer of the right value denotes a magnitude if it is its text. -/
theorem exists_denotes_integer (negative : Bool) (hs : 0 < s) (zeros : Nat) (hfinite : m.isFinite)
    (hcode : codeOf ((s * 10 ^ zeros : Nat) : ℚ) = m.code)
    (htext : Cell.numberLayout.magnitude m = Nat.toDigits 10 s ++ List.replicate zeros '0') :
    ∃ l : Lexeme, l.negative = negative ∧ l.Denotes m := by
  obtain ⟨l, hnegative, hwell, hunsigned, hsignificand, hscale⟩ := exists_integer negative hs zeros
  refine ⟨l, hnegative, hwell, hunsigned.trans htext.symm, ?_⟩
  rw [hsignificand, hscale]
  refine ofDecimal_eq_of_codeOf_eq (Nat.mul_pos hs (Nat.pow_pos (by decide))) (by decide) hfinite ?_
  rw [zpow_zero, mul_one, hcode]

theorem exists_denotes_zero (negative : Bool) (hzero : m.code = 0) :
    ∃ l : Lexeme, l.negative = negative ∧ l.Denotes m := by
  obtain rfl : m = .zero := code_injective hzero
  have hdigits : IsDigits ['0'] := isDigits_toDigits 0
  exact ⟨⟨negative, ['0'], none, none⟩, rfl, ⟨hdigits, .inl rfl, by simp, by simp⟩, rfl, rfl⟩

/-- Significant digits without an exponent. -/
theorem exists_denotes_positional (negative : Bool) (hfinite : m.isFinite) (hs : 0 < s)
    (hlow : -340 ≤ exponent) (hcode : codeOf (s * 10 ^ exponent) = m.code)
    (htext : Cell.numberLayout.magnitude m = Cell.numberLayout.positional
      ⟨Nat.toDigits 10 s, exponent + (Nat.toDigits 10 s).length - 1⟩) :
    ∃ l : Lexeme, l.negative = negative ∧ l.Denotes m := by
  obtain ⟨lead, hlead⟩ : ∃ lead, exponent + (Nat.toDigits 10 s).length - 1 = lead := ⟨_, rfl⟩
  have hwritten {l : Lexeme} (hnegative : l.negative = negative)
      (hwrites : l.Writes (Cell.numberLayout.positional ⟨Nat.toDigits 10 s, lead⟩) s exponent) :
      l.negative = negative ∧ l.Denotes m :=
    ⟨hnegative, hwrites.wellFormed, by rw [hwrites.text_eq, htext, hlead],
      hwrites.ofDecimal_eq hs hlow hfinite hcode⟩
  rcases Int.lt_or_le lead 0 with hsmall | hnonneg
  · obtain ⟨l, hnegative, hwrites⟩ :=
      writes_positional_small Cell.numberLayout negative hsmall hlead.symm
    exact ⟨l, hwritten hnegative hwrites⟩
  rcases Nat.lt_or_ge (lead.toNat + 1) (Nat.toDigits 10 s).length with hsplit | hlength
  · obtain ⟨l, hnegative, hwrites⟩ :=
      writes_positional_split Cell.numberLayout negative hs hnonneg hsplit hlead.symm
    exact ⟨l, hwritten hnegative hwrites⟩
  · obtain ⟨zeros, rfl⟩ : ∃ zeros : Nat, exponent = zeros := ⟨exponent.toNat, by omega⟩
    have hzeros : lead.toNat + 1 - (Nat.toDigits 10 s).length = zeros := by omega
    refine exists_denotes_integer negative hs zeros hfinite ?_ ?_
    · rw [← hcode, zpow_natCast]
      push_cast
      rfl
    · rw [htext, hlead]
      simp [Layout.positional, Int.not_lt.mpr hnonneg, hlength, hzeros, Cell.numberLayout]

/-- Significant digits with an exponent. -/
theorem exists_denotes_scientific (negative : Bool) (hfinite : m.isFinite) (hs : 0 < s)
    (hlow : -340 ≤ exponent) (hcode : codeOf (s * 10 ^ exponent) = m.code)
    (hfar : exponent + (Nat.toDigits 10 s).length - 1 < 0 ∨
      16 ≤ exponent + (Nat.toDigits 10 s).length - 1)
    (htext : Cell.numberLayout.magnitude m = Cell.numberLayout.scientific
      ⟨Nat.toDigits 10 s, exponent + (Nat.toDigits 10 s).length - 1⟩) :
    ∃ l : Lexeme, l.negative = negative ∧ l.Denotes m := by
  have hplus : Cell.numberLayout.exponentPlus = true := rfl
  obtain ⟨l, hnegative, hwrites⟩ := writes_scientific hplus negative hs hfar rfl
  exact ⟨l, hnegative, hwrites.wellFormed, hwrites.text_eq.trans htext.symm,
    hwrites.ofDecimal_eq hs hlow hfinite hcode⟩

theorem exists_denotes_natCast (negative : Bool) (hzero : m.code ≠ 0) {n : Nat}
    (hnat : m.toNat? = some n) (htext : Cell.numberLayout.magnitude m = Nat.toDigits 10 n) :
    ∃ l : Lexeme, l.negative = negative ∧ l.Denotes m := by
  obtain ⟨hfinite, hvalue⟩ := toNat?_eq_some_iff.mp hnat
  have hn : 0 < n := by
    have hpos := value_pos_iff.mpr hzero
    rw [hvalue] at hpos
    exact_mod_cast hpos
  refine exists_denotes_integer negative hn 0 hfinite ?_ (by simpa using htext)
  rw [Nat.pow_zero, Nat.mul_one, ← hvalue, value, codeOf_valueOf]

/-- Every finite magnitude is written as a lexeme that is read as the magnitude. -/
theorem exists_denotes (negative : Bool) (hfinite : m.isFinite) :
    ∃ l : Lexeme, l.negative = negative ∧ l.Denotes m := by
  by_cases hzero : m.code = 0
  · exact exists_denotes_zero negative hzero
  obtain ⟨s, e, hdigits, hcode, hs, -, hlow⟩ := shortestDigits_spec .up hzero hfinite
  have htext : Cell.numberLayout.magnitude m =
      if Cell.numberLayout.isPositional (m.shortestDigits .up).lead then
        match m.toNat? with
        | some n => Nat.toDigits 10 n
        | none => Cell.numberLayout.positional (m.shortestDigits .up)
      else Cell.numberLayout.scientific (m.shortestDigits .up) := by
    rw [Layout.magnitude, if_neg hzero]
    cases m.toNat? <;> rfl
  rw [hdigits] at htext
  cases hpositional : Cell.numberLayout.isPositional (e + (Nat.toDigits 10 s).length - 1) with
  | false =>
      rw [hpositional] at htext
      refine exists_denotes_scientific negative hfinite hs hlow hcode ?_ htext
      simp only [Layout.isPositional, Cell.numberLayout, Option.all_some, Bool.and_eq_false_iff,
        decide_eq_false_iff_not] at hpositional
      omega
  | true =>
      rw [hpositional, if_pos rfl] at htext
      cases hnat : m.toNat? with
      | none =>
          rw [hnat] at htext
          exact exists_denotes_positional negative hfinite hs hlow hcode htext
      | some n =>
          rw [hnat] at htext
          exact exists_denotes_natCast negative hzero hnat htext

end Json.Lexeme

/-! ## Reading the text of a number -/

namespace Number

open Json.Lexeme

theorem ofText?_text {l : Json.Lexeme} (hl : l.WellFormed) :
    ofText? l.text = some (.signed l.negative (.ofDecimal l.significand l.scale)) := by
  rw [ofText?_eq_some_iff_literal, Text.trim_of_forall_not_blank hl.literal.isBlank_eq]
  exact hl.literal

/-- A number that is one is read from its text, as a number with the same place. -/
theorem exists_ofText?_render {x : Number} (hx : x ≠ .nan) :
    ∃ y place, ofText? (Cell.numberLayout.render x).toList = some y ∧ x.place = some place ∧
      y.place = some place := by
  cases x with
  | nan => exact absurd rfl hx
  | signed negative m =>
      by_cases hfinite : m.isFinite = true
      · obtain ⟨l, hnegative, hl⟩ := exists_denotes (negative && m.code != 0) hfinite
        have hrender : (Cell.numberLayout.render (.signed negative m)).toList = l.text := by
          have hzero : Cell.numberLayout.signedZero = false := rfl
          simp [Layout.render, hfinite, hzero, text, hnegative, hl.text_eq]
        refine ⟨_, _, hrender ▸ ofText?_text hl.wellFormed, place_signed negative m, ?_⟩
        rw [hl.ofDecimal_eq, hnegative, place_signed]
        by_cases hcode : m.code = 0 <;> simp [hcode]
      · obtain rfl : m = .infinity := by
          have htop : Magnitude.top ≤ m.code := by simpa [Magnitude.isFinite] using hfinite
          exact Magnitude.code_injective (Nat.le_antisymm m.code_le_top htop)
        cases negative
        · exact ⟨.signed false .infinity, _, rfl, rfl, rfl⟩
        · exact ⟨.signed true .infinity, _, rfl, rfl, rfl⟩

end Number

end TableQuery
