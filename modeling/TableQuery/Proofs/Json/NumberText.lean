import TableQuery.Proofs.Json.Gathered

/-!
# The texts of numbers

Every text that a finite number is written as is the text of a lexeme. Its
significand and scale are those of the significant digits, except that an
integral number ends in `.0` and so has one more digit, a zero, behind the point.
-/

namespace TableQuery.Json

open Lexeme

/-- A lexeme with a fraction or an exponent that stands for significant digits. Only digits that all
stand before the point get another zero behind it. -/
structure Lexeme.Writes (l : Lexeme) (text : List Char) (significand : Nat) (exponent : Int) :
    Prop where
  wellFormed : l.WellFormed
  isReal : l.fraction ≠ none ∨ l.exponent ≠ none
  text_eq : l.unsignedText = text
  scaled : (l.significand = significand ∧ l.scale = exponent ∧
      (exponent < 0 ∨ 16 < (Nat.toDigits 10 significand).length + exponent)) ∨
    ∃ zeros : Nat, exponent = zeros ∧ (Nat.toDigits 10 significand).length + zeros ≤ 16 ∧
      l.significand = significand * 10 ^ (zeros + 1) ∧ l.scale = -1

variable {s : Nat} {lead exponent : Int}

theorem isDigits_append {a b : List Char} (ha : IsDigits a)
    (hb : ∀ c ∈ b, Decimal.isDigit c = true) : IsDigits (a ++ b) :=
  ⟨by simp [ha.1], fun c hc => (List.mem_append.mp hc).elim (ha.2 c) (hb c)⟩

theorem isDigit_of_mem_replicate {k : Nat} {c : Char} (h : c ∈ List.replicate k '0') :
    Decimal.isDigit c = true := by
  rw [List.eq_of_mem_replicate h]
  rfl

/-- The leading digit stands behind the point. -/
theorem writes_positional_small (layout : Layout) (negative : Bool) (hlead : lead < 0)
    (hexponent : lead = exponent + (Nat.toDigits 10 s).length - 1) :
    ∃ l : Lexeme, l.negative = negative ∧
      l.Writes (layout.positional ⟨Nat.toDigits 10 s, lead⟩) s exponent := by
  obtain ⟨k, hk⟩ : ∃ k : Nat, (-lead - 1).toNat = k := ⟨_, rfl⟩
  refine ⟨⟨negative, ['0'], some (List.replicate k '0' ++ Nat.toDigits 10 s), none⟩, rfl, ?_⟩
  constructor
  · refine ⟨⟨by simp, by simp [Decimal.isDigit]⟩, .inl rfl, ?_, by simp⟩
    rintro digits ⟨⟩
    refine ⟨by simp [Nat.toDigits_ne_nil], fun c hc => ?_⟩
    rcases List.mem_append.mp hc with hc | hc
    · exact isDigit_of_mem_replicate hc
    · exact Decimal.isDigit_of_mem_toDigits hc
  · exact .inl (by simp)
  · simp [unsignedText, fractionText, exponentText, Layout.positional, hlead, hk]
  · have hneg : exponent < 0 := by
      have hlength := Nat.length_toDigits_pos (b := 10) (n := s)
      omega
    refine .inl ⟨?_, ?_, .inl hneg⟩
    · have hzeros : ['0'] ++ (List.replicate k '0' ++ Nat.toDigits 10 s) =
          List.replicate (k + 1) '0' ++ Nat.toDigits 10 s := rfl
      rw [significand, fractionDigits, Option.getD_some, hzeros,
        Decimal.ofDigits_replicate_append, Decimal.ofDigits_toDigits]
    · simp only [scale, fractionDigits, Option.getD_some, List.length_append, List.length_replicate]
      omega

/-- All digits stand before the point, which is written with a zero behind it. -/
theorem writes_positional_integral (negative : Bool) (hs : 0 < s) (hlead : 0 ≤ lead)
    (hbelow : lead < 16) (hlength : (Nat.toDigits 10 s).length ≤ lead.toNat + 1)
    (hexponent : lead = exponent + (Nat.toDigits 10 s).length - 1) :
    ∃ l : Lexeme, l.negative = negative ∧
      l.Writes (numberLayout.positional ⟨Nat.toDigits 10 s, lead⟩) s exponent := by
  obtain ⟨zeros, rfl⟩ : ∃ zeros : Nat, exponent = zeros := ⟨exponent.toNat, by omega⟩
  have hzeros : lead.toNat + 1 - (Nat.toDigits 10 s).length = zeros := by omega
  refine ⟨⟨negative, Nat.toDigits 10 s ++ List.replicate zeros '0', some ['0'], none⟩, rfl, ?_⟩
  constructor
  · refine ⟨isDigits_append (isDigits_toDigits s) fun c hc => isDigit_of_mem_replicate hc, .inr ?_,
      ?_, by simp⟩
    · rw [List.head?_append, Option.or_of_isSome (by simp [Nat.toDigits_ne_nil])]
      exact Decimal.head?_toDigits_ne hs
    · rintro digits ⟨⟩
      exact isDigits_toDigits 0
  · exact .inl (by simp)
  · simp [unsignedText, fractionText, exponentText, Layout.positional, hlength, hzeros,
      numberLayout, Int.not_lt.mpr hlead]
  · refine .inr ⟨zeros, rfl, by omega, ?_, rfl⟩
    have hdigits : Nat.toDigits 10 s ++ List.replicate zeros '0' ++ ['0'] =
        Nat.toDigits 10 s ++ List.replicate (zeros + 1) '0' := by
      rw [List.append_assoc, ← List.replicate_succ']
    rw [significand, fractionDigits, Option.getD_some, hdigits, Decimal.ofDigits_append_replicate,
      Decimal.ofDigits_toDigits]

/-- The digits stand on both sides of the point. -/
theorem writes_positional_split (layout : Layout) (negative : Bool) (hs : 0 < s) (hlead : 0 ≤ lead)
    (hlength : lead.toNat + 1 < (Nat.toDigits 10 s).length)
    (hexponent : lead = exponent + (Nat.toDigits 10 s).length - 1) :
    ∃ l : Lexeme, l.negative = negative ∧
      l.Writes (layout.positional ⟨Nat.toDigits 10 s, lead⟩) s exponent := by
  obtain ⟨whole, hwhole⟩ : ∃ whole, lead.toNat + 1 = whole := ⟨_, rfl⟩
  refine ⟨⟨negative, (Nat.toDigits 10 s).take whole, some ((Nat.toDigits 10 s).drop whole), none⟩,
    rfl, ?_⟩
  constructor
  · refine ⟨⟨?_, fun c hc => Decimal.isDigit_of_mem_toDigits (List.mem_of_mem_take hc)⟩, .inr ?_,
      ?_, by simp⟩
    · simp [Nat.toDigits_ne_nil]
      omega
    · rw [List.head?_take, if_neg (by omega)]
      exact Decimal.head?_toDigits_ne hs
    · rintro digits ⟨⟩
      refine ⟨?_, fun c hc => Decimal.isDigit_of_mem_toDigits (List.mem_of_mem_drop hc)⟩
      simp
      omega
  · exact .inl (by simp)
  · simp [unsignedText, fractionText, exponentText, Layout.positional, Int.not_lt.mpr hlead, hwhole,
      Nat.not_le.mpr (hwhole ▸ hlength)]
  · refine .inl ⟨?_, ?_, .inl (by omega)⟩
    · rw [significand, fractionDigits, Option.getD_some, List.take_append_drop,
        Decimal.ofDigits_toDigits]
    · simp only [scale, fractionDigits, Option.getD_some, List.length_drop]
      omega

/-- The digits are followed by an exponent. -/
theorem writes_scientific {layout : Layout} (hplus : layout.exponentPlus = true) (negative : Bool)
    (hs : 0 < s) (hscientific : lead < 0 ∨ 16 ≤ lead)
    (hexponent : lead = exponent + (Nat.toDigits 10 s).length - 1) :
    ∃ l : Lexeme, l.negative = negative ∧
      l.Writes (layout.scientific ⟨Nat.toDigits 10 s, lead⟩) s exponent := by
  obtain ⟨c, digits, hdigits⟩ := List.exists_cons_of_ne_nil (Nat.toDigits_ne_nil (b := 10) (n := s))
  have hhead := Decimal.head?_toDigits_ne hs
  have hall : ∀ d ∈ c :: digits, Decimal.isDigit d = true := fun d hd =>
    Decimal.isDigit_of_mem_toDigits (hdigits ▸ hd)
  have hvalue : Decimal.ofDigits (c :: digits) = s := by rw [← hdigits, Decimal.ofDigits_toDigits]
  have hlength : (Nat.toDigits 10 s).length = digits.length + 1 := by
    rw [hdigits, List.length_cons]
  rw [hdigits] at hhead ⊢
  refine ⟨⟨negative, [c], if digits.isEmpty then none else some digits,
    some (decide (lead < 0), Nat.toDigits 10 lead.natAbs)⟩, rfl, ?_⟩
  have hfraction : (if digits.isEmpty then none else some digits).getD [] = digits := by
    cases digits <;> rfl
  constructor
  · refine ⟨⟨by simp, fun d hd => hall d (by simp_all)⟩, .inr hhead, ?_, ?_⟩
    · intro part hpart
      cases digits with
      | nil => simp at hpart
      | cons d digits =>
          obtain rfl : d :: digits = part := by simpa using hpart
          exact ⟨by simp, fun d hd => hall d (List.mem_cons_of_mem _ hd)⟩
    · rintro part ⟨⟩
      exact isDigits_toDigits _
  · exact .inr (by simp)
  · cases digits <;> by_cases hneg : lead < 0 <;>
      simp [unsignedText, fractionText, exponentText, Layout.scientific, hneg, hplus]
  · refine .inl ⟨?_, ?_, by omega⟩
    · rw [significand, fractionDigits, hfraction]
      exact hvalue
    · simp only [scale, fractionDigits, hfraction]
      by_cases hneg : lead < 0
      · simp only [hneg, decide_true, Decimal.ofDigits_toDigits]
        omega
      · simp only [hneg, decide_false, Decimal.ofDigits_toDigits]
        omega

/-- Significant digits are written as a lexeme, whatever their exponent. -/
theorem exists_writes (negative : Bool) (hs : 0 < s)
    (hexponent : lead = exponent + (Nat.toDigits 10 s).length - 1) :
    ∃ l : Lexeme, l.negative = negative ∧
      l.Writes (if numberLayout.isPositional lead then
        numberLayout.positional ⟨Nat.toDigits 10 s, lead⟩
      else numberLayout.scientific ⟨Nat.toDigits 10 s, lead⟩) s exponent := by
  cases hpositional : numberLayout.isPositional lead with
  | false =>
      refine writes_scientific rfl negative hs ?_ hexponent
      simp only [Layout.isPositional, numberLayout, Option.all_some, Bool.and_eq_false_iff,
        decide_eq_false_iff_not] at hpositional
      omega
  | true =>
      have hbelow : lead < 16 := by
        simp only [Layout.isPositional, numberLayout, Option.all_some, Bool.and_eq_true,
          decide_eq_true_eq] at hpositional
        exact hpositional.2
      rcases Int.lt_or_le lead 0 with hsmall | hlead
      · exact writes_positional_small numberLayout negative hsmall hexponent
      rcases Nat.lt_or_ge (lead.toNat + 1) (Nat.toDigits 10 s).length with hsplit | hlength
      · exact writes_positional_split numberLayout negative hs hlead hsplit hexponent
      · exact writes_positional_integral negative hs hlead hbelow hlength hexponent

theorem Numeral.render_real {m : Magnitude} (hfinite : m.isFinite) (negative : Bool) :
    (Numeral.real (.signed negative m)).render =
      (if negative then ['-'] else []) ++ numberLayout.magnitude m := by
  have hzero : numberLayout.signedZero = true := rfl
  simp [Numeral.render, Layout.render, hfinite, hzero]

theorem magnitude_eq {m : Magnitude} (hpos : m.code ≠ 0) :
    numberLayout.magnitude m =
      if numberLayout.isPositional (m.shortestDigits .toEven).lead then
        numberLayout.positional (m.shortestDigits .toEven)
      else numberLayout.scientific (m.shortestDigits .toEven) := by
  have hexact : numberLayout.exactIntegers = false := rfl
  have htie : numberLayout.tie = .toEven := rfl
  rw [Layout.magnitude, if_neg hpos, htie, hexact]
  cases m.toNat? <;> rfl

/-- A number that is not zero is written as a lexeme that stands for its significant digits. -/
theorem Numeral.exists_writes_real {m : Magnitude} (hpos : m.code ≠ 0) (hfinite : m.isFinite)
    (negative : Bool) (hs : 0 < s)
    (hdigits : m.shortestDigits .toEven =
      ⟨Nat.toDigits 10 s, exponent + (Nat.toDigits 10 s).length - 1⟩) :
    ∃ (l : Lexeme) (text : List Char), l.negative = negative ∧ l.Writes text s exponent ∧
      (Numeral.real (.signed negative m)).render = l.text := by
  have hlead : exponent + (Nat.toDigits 10 s).length - 1 =
      exponent + (Nat.toDigits 10 s).length - 1 := rfl
  obtain ⟨l, hnegative, hwrites⟩ := exists_writes negative hs hlead
  refine ⟨l, _, hnegative, hwrites, ?_⟩
  rw [render_real hfinite, magnitude_eq hpos, hdigits, text, hnegative, hwrites.text_eq]

end TableQuery.Json
