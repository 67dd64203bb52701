import TableQuery.Proofs.Cell.Reading
import TableQuery.Proofs.Json.Lexeme

/-!
# The grammar of number literals

A literal is a sign, which may be missing, and then the word `Infinity` or a
mantissa with an exponent, which may be missing too. `Number.Literal` is this
grammar as a relation, with the number that each literal stands for; a mantissa
has digits before a point, behind it, or without one.

`Number.scan` reads these literals and nothing else, and it is greedy: at the
start of a text it takes a literal, and when the text starts with some literal it
takes at least this one. Both halves are shown for each part of a literal. In the
second half, `more` is what a part takes of the text behind it; a part that takes
no more stands for what it stands for alone.
-/

namespace TableQuery

open Json (IsDigits StopsDigits)

namespace Decimal

/-- A sign that may be missing; `true` for a minus. -/
inductive SignText : List Char → Bool → Prop
  | none : SignText [] false
  | plus : SignText ['+'] false
  | minus : SignText ['-'] true

/-- Digits with an optional point, all digits together, and how many stand behind the point. -/
inductive MantissaText : List Char → List Char → Nat → Prop
  | whole {digits : List Char} (h : IsDigits digits) : MantissaText digits digits 0
  | pointed {whole fraction : List Char} (h : IsDigits (whole ++ fraction)) :
      MantissaText (whole ++ '.' :: fraction) (whole ++ fraction) fraction.length

/-- An exponent that may be missing. -/
inductive ExponentText : List Char → Int → Prop
  | none : ExponentText [] 0
  | marked {mark : Char} (hmark : mark = 'e' ∨ mark = 'E') {sign : List Char} {negative : Bool}
      (hsign : SignText sign negative) {digits : List Char} (h : IsDigits digits) :
      ExponentText (mark :: (sign ++ digits))
        (if negative then -(ofDigits digits : Int) else ofDigits digits)

end Decimal

/-- A text that is a number, with this number. -/
inductive Number.Literal : List Char → Number → Prop
  | infinity {sign : List Char} {negative : Bool} (hsign : Decimal.SignText sign negative) :
      Literal (sign ++ infinityWord) (.signed negative .infinity)
  | decimal {sign mantissa digits exponent : List Char} {negative : Bool} {places : Nat} {e : Int}
      (hsign : Decimal.SignText sign negative)
      (hmantissa : Decimal.MantissaText mantissa digits places)
      (hexponent : Decimal.ExponentText exponent e) :
      Literal (sign ++ (mantissa ++ exponent))
        (Decimal.toNumber ⟨negative, Decimal.ofDigits digits, e - places⟩)

/-! ## Digits -/

namespace Decimal

theorem not_digit_or_point_of_mark {c : Char} (h : c = 'e' ∨ c = 'E') :
    isDigit c = false ∧ c ≠ '.' := by
  rcases h with rfl | rfl <;> decide

theorem not_sign_of_digit_or_point {c : Char} (h : isDigit c = true ∨ c = '.') :
    c ≠ '-' ∧ c ≠ '+' ∧ c ≠ 'I' := by
  refine ⟨?_, ?_, ?_⟩ <;> rintro rfl <;> revert h <;> decide

/-- What a mantissa starts with. -/
theorem MantissaText.exists_cons {mantissa digits : List Char} {places : Nat}
    (h : MantissaText mantissa digits places) :
    ∃ c rest, mantissa = c :: rest ∧ (isDigit c = true ∨ c = '.') := by
  cases h with
  | whole h =>
      obtain ⟨c, rest, rfl⟩ := List.exists_cons_of_ne_nil h.1
      exact ⟨c, rest, rfl, .inl (h.2 c List.mem_cons_self)⟩
  | @pointed whole fraction h =>
      cases whole with
      | nil => exact ⟨'.', fraction, rfl, .inr rfl⟩
      | cons c rest => exact ⟨c, _, rfl, .inl (h.2 c List.mem_cons_self)⟩

/-! ## Whatever is read is a literal -/

variable {negative : Bool} {text tail : List Char}

theorem exists_signText (text : List Char) :
    ∃ sign, text = sign ++ (scanSign text).2 ∧ SignText sign (scanSign text).1 := by
  rw [scanSign.eq_def]
  split
  · exact ⟨['-'], rfl, .minus⟩
  · exact ⟨['+'], rfl, .plus⟩
  · exact ⟨[], rfl, .none⟩

theorem scanExponent_cons {mark : Char} (h : mark = 'e' ∨ mark = 'E') (rest : List Char) :
    scanExponent (mark :: rest) =
      if ((scanSign rest).2.takeWhile isDigit).isEmpty then (0, mark :: rest)
      else
        (if (scanSign rest).1 then -(ofDigits ((scanSign rest).2.takeWhile isDigit) : Int)
          else ofDigits ((scanSign rest).2.takeWhile isDigit),
          (scanSign rest).2.dropWhile isDigit) := by
  rcases h with rfl | rfl <;> rfl

theorem exists_exponentText (text : List Char) :
    ∃ exponent, text = exponent ++ (scanExponent text).2 ∧
      ExponentText exponent (scanExponent text).1 := by
  cases text with
  | nil => exact ⟨[], rfl, .none⟩
  | cons mark rest =>
      by_cases hmark : mark = 'e' ∨ mark = 'E'
      · obtain ⟨sign, hrest, hsign⟩ := exists_signText rest
        rw [scanExponent_cons hmark]
        split
        · exact ⟨[], rfl, .none⟩
        · next hfilled =>
          refine ⟨_, ?_, .marked hmark hsign
            ⟨by simpa only [List.isEmpty_iff] using hfilled, fun c => List.mem_takeWhile_imp⟩⟩
          rw [List.cons_append, List.append_assoc, List.takeWhile_append_dropWhile, ← hrest]
      · have hnone : scanExponent (mark :: rest) = (0, mark :: rest) := by
          simp [scanExponent, hmark]
        rw [hnone]
        exact ⟨[], rfl, .none⟩

/-- The point is not among the digits in front of it. -/
theorem splitFraction_cases (text : List Char) :
    splitFraction text = ([], text) ∨
      ∃ rest, text = '.' :: rest ∧
        splitFraction text = (rest.takeWhile isDigit, rest.dropWhile isDigit) := by
  rw [splitFraction.eq_def]
  split
  · next rest => exact .inr ⟨rest, rfl, rfl⟩
  · exact .inl rfl

theorem exists_mantissaText {d : Decimal} (h : scanUnsigned negative text = some (d, tail)) :
    ∃ mantissa digits places exponent e, text = mantissa ++ (exponent ++ tail) ∧
      MantissaText mantissa digits places ∧ ExponentText exponent e ∧
      d = ⟨negative, ofDigits digits, e - places⟩ := by
  rw [scanUnsigned_eq] at h
  split at h
  · cases h
  · next hfilled =>
    have hdigits : ∀ c ∈ text.takeWhile isDigit, isDigit c = true := fun c => List.mem_takeWhile_imp
    have hsplit : text = text.takeWhile isDigit ++ text.dropWhile isDigit :=
      List.takeWhile_append_dropWhile.symm
    cases h
    rcases splitFraction_cases (text.dropWhile isDigit) with hnone | ⟨rest, hpoint, hfraction⟩
    · rw [hnone] at hfilled ⊢
      obtain ⟨exponent, hrest, hexponent⟩ := exists_exponentText (text.dropWhile isDigit)
      refine ⟨_, _, 0, exponent, _, ?_, .whole ⟨by simpa using hfilled, hdigits⟩, hexponent, ?_⟩
      · rw [← hrest]
        exact hsplit
      · rw [List.append_nil, List.length_nil]
    · rw [hfraction] at hfilled ⊢
      obtain ⟨exponent, hrest, hexponent⟩ := exists_exponentText (rest.dropWhile isDigit)
      have hall : IsDigits (text.takeWhile isDigit ++ rest.takeWhile isDigit) := by
        refine ⟨by simpa using hfilled, fun c hc => ?_⟩
        exact (List.mem_append.mp hc).elim (hdigits c) List.mem_takeWhile_imp
      refine ⟨_, _, _, exponent, _, ?_, .pointed hall, hexponent, rfl⟩
      rw [List.append_assoc, List.cons_append, ← hrest, List.takeWhile_append_dropWhile, ← hpoint]
      exact hsplit

/-! ## A literal is taken whole, whatever follows -/

theorem SignText.scanSign_append {sign : List Char} (h : SignText sign negative)
    (htext : ∀ c ∈ text.head?, c ≠ '-' ∧ c ≠ '+') : scanSign (sign ++ text) = (negative, text) := by
  cases h with
  | none =>
      cases text with
      | nil => rfl
      | cons c text => simp [scanSign, htext c rfl]
  | plus => rfl
  | minus => rfl

theorem ExponentText.eq_zero {e : Int} (h : ExponentText [] e) : e = 0 := by
  cases h
  rfl

variable {exponent : List Char} {e : Int}

theorem ExponentText.exists_scan (h : ExponentText exponent e) (rest : List Char) :
    ∃ more tail x, rest = more ++ tail ∧ scanExponent (exponent ++ rest) = (x, tail) ∧
      (more = [] → x = e) := by
  cases h with
  | none =>
      obtain ⟨more, hrest, hmore⟩ := exists_exponentText rest
      refine ⟨more, _, _, hrest, rfl, ?_⟩
      rintro rfl
      exact hmore.eq_zero
  | @marked mark hmark sign negative hsign digits h =>
      refine ⟨rest.takeWhile isDigit, rest.dropWhile isDigit,
        if negative then -(ofDigits (digits ++ rest.takeWhile isDigit) : Int)
          else ofDigits (digits ++ rest.takeWhile isDigit),
        List.takeWhile_append_dropWhile.symm, ?_, ?_⟩
      · have hhead : ∀ c ∈ (digits ++ rest).head?, c ≠ '-' ∧ c ≠ '+' := by
          obtain ⟨c, others, rfl⟩ := List.exists_cons_of_ne_nil h.1
          rintro d ⟨⟩
          have hd := not_sign_of_digit_or_point (.inl (h.2 c List.mem_cons_self))
          exact ⟨hd.1, hd.2.1⟩
        rw [List.cons_append, List.append_assoc, scanExponent_cons hmark,
          hsign.scanSign_append hhead, List.takeWhile_append_of_pos h.2,
          List.dropWhile_append_of_pos h.2, if_neg (by simp [h.1])]
      · intro hmore
        rw [hmore, List.append_nil]

/-- An exponent that comes after more digits. -/
theorem ExponentText.exists_scan_dropWhile (h : ExponentText exponent e) (rest : List Char) :
    ∃ more tail x, rest = more ++ tail ∧
      scanExponent ((exponent ++ rest).dropWhile isDigit) = (x, tail) ∧
      (more = [] → (exponent ++ rest).takeWhile isDigit = [] ∧ x = e) := by
  cases h with
  | none =>
      rw [List.nil_append]
      obtain ⟨more, hrest, hmore⟩ := exists_exponentText (rest.dropWhile isDigit)
      refine ⟨rest.takeWhile isDigit ++ more, (scanExponent (rest.dropWhile isDigit)).2,
        (scanExponent (rest.dropWhile isDigit)).1, ?_, rfl, fun hnone => ?_⟩
      · rw [List.append_assoc, ← hrest, List.takeWhile_append_dropWhile]
      · obtain ⟨hdigits, rfl⟩ := List.append_eq_nil_iff.mp hnone
        exact ⟨hdigits, hmore.eq_zero⟩
  | marked hmark hsign h =>
      have hmark' := (not_digit_or_point_of_mark hmark).1
      obtain ⟨more, tail, x, hrest, hscan, hx⟩ :=
        (ExponentText.marked hmark hsign h).exists_scan rest
      refine ⟨more, tail, x, hrest, ?_, fun hnone => ⟨?_, hx hnone⟩⟩
      · rw [← hscan, List.cons_append, List.dropWhile_cons_of_neg (by simp [hmark'])]
      · rw [List.cons_append, List.takeWhile_cons_of_neg (by simp [hmark'])]

/-- An exponent that comes after more digits and a fraction. -/
theorem ExponentText.exists_scan_splitFraction (h : ExponentText exponent e) (rest : List Char) :
    ∃ more tail x, rest = more ++ tail ∧
      scanExponent (splitFraction ((exponent ++ rest).dropWhile isDigit)).2 = (x, tail) ∧
      (more = [] → (exponent ++ rest).takeWhile isDigit = [] ∧
        (splitFraction ((exponent ++ rest).dropWhile isDigit)).1 = [] ∧ x = e) := by
  rcases splitFraction_cases ((exponent ++ rest).dropWhile isDigit) with
    hnone | ⟨after, hpoint, hfraction⟩
  · obtain ⟨more, tail, x, hrest, hscan, hx⟩ := h.exists_scan_dropWhile rest
    rw [hnone]
    exact ⟨more, tail, x, hrest, hscan, fun hmore => ⟨(hx hmore).1, rfl, (hx hmore).2⟩⟩
  · cases h with
    | none =>
        obtain ⟨more, hafter, -⟩ := exists_exponentText (after.dropWhile isDigit)
        rw [hfraction]
        refine ⟨rest.takeWhile isDigit ++ '.' :: (after.takeWhile isDigit ++ more),
          (scanExponent (after.dropWhile isDigit)).2, (scanExponent (after.dropWhile isDigit)).1,
          ?_, rfl, fun hmore => absurd hmore (by simp)⟩
        rw [List.append_assoc, List.cons_append, List.append_assoc, ← hafter,
          List.takeWhile_append_dropWhile, ← hpoint]
        exact List.takeWhile_append_dropWhile.symm
    | marked hmark hsign h =>
        -- The mark would be the point.
        have hmark' := not_digit_or_point_of_mark hmark
        rw [List.cons_append, List.dropWhile_cons_of_neg (by simp [hmark'.1])] at hpoint
        exact absurd (List.cons.inj hpoint).1 hmark'.2

theorem MantissaText.exists_scan {mantissa digits : List Char} {places : Nat}
    (hmantissa : MantissaText mantissa digits places) (hexponent : ExponentText exponent e)
    (negative : Bool) (rest : List Char) :
    ∃ more tail d, rest = more ++ tail ∧
      scanUnsigned negative (mantissa ++ (exponent ++ rest)) = some (d, tail) ∧
      (more = [] → d = ⟨negative, ofDigits digits, e - places⟩) := by
  cases hmantissa with
  | whole h =>
      obtain ⟨more, tail, x, hrest, hscan, hx⟩ := hexponent.exists_scan_splitFraction rest
      refine ⟨more, tail, ⟨negative, ofDigits (mantissa ++ (exponent ++ rest).takeWhile isDigit ++
        (splitFraction ((exponent ++ rest).dropWhile isDigit)).1),
        x - (splitFraction ((exponent ++ rest).dropWhile isDigit)).1.length⟩, hrest, ?_,
        fun hmore => ?_⟩
      · rw [scanUnsigned_eq, List.takeWhile_append_of_pos h.2, List.dropWhile_append_of_pos h.2,
          hscan, if_neg (by simp [h.1])]
      · obtain ⟨htake, hfraction, rfl⟩ := hx hmore
        rw [htake, hfraction, List.append_nil, List.append_nil, List.length_nil]
  | @pointed whole fraction h =>
      have hwhole : ∀ c ∈ whole, isDigit c = true := fun c hc => h.2 c (List.mem_append_left _ hc)
      have hfraction : ∀ c ∈ fraction, isDigit c = true := fun c hc =>
        h.2 c (List.mem_append_right _ hc)
      have hpoint : StopsDigits ('.' :: (fraction ++ (exponent ++ rest))) := by
        rintro c ⟨⟩
        rfl
      obtain ⟨more, tail, x, hrest, hscan, hx⟩ := hexponent.exists_scan_dropWhile rest
      refine ⟨more, tail, ⟨negative,
        ofDigits (whole ++ (fraction ++ (exponent ++ rest).takeWhile isDigit)),
        x - (fraction ++ (exponent ++ rest).takeWhile isDigit).length⟩, hrest, ?_, fun hmore => ?_⟩
      · have hfilled : ¬(whole.isEmpty &&
            (fraction ++ (exponent ++ rest).takeWhile isDigit).isEmpty) = true := by
          simpa [and_assoc] using fun hw hf => absurd (by rw [hw, hf]; rfl) h.1
        rw [scanUnsigned_eq, List.append_assoc, List.cons_append, hpoint.takeWhile_eq hwhole,
          hpoint.dropWhile_eq hwhole, splitFraction, List.takeWhile_append_of_pos hfraction,
          List.dropWhile_append_of_pos hfraction, hscan, if_neg hfilled]
      · obtain ⟨htake, rfl⟩ := hx hmore
        rw [htake, List.append_nil]

end Decimal

/-! ## Scanning a literal -/

namespace Number

variable {literal text tail : List Char} {n : Number}

theorem exists_literal (h : scan text = some (n, tail)) :
    ∃ literal, text = literal ++ tail ∧ Literal literal n := by
  obtain ⟨sign, htext, hsign⟩ := Decimal.exists_signText text
  rw [scan] at h
  simp only at h
  split at h
  · next hword =>
    obtain ⟨rest, hrest⟩ := List.isPrefixOf_iff_prefix.mp hword
    cases h
    refine ⟨sign ++ infinityWord, ?_, .infinity hsign⟩
    rw [← hrest, List.drop_left, List.append_assoc, hrest]
    exact htext
  · obtain ⟨⟨d, rest⟩, hd, heq⟩ := Option.map_eq_some_iff.mp h
    obtain ⟨mantissa, digits, places, exponent, e, hrest, hmantissa, hexponent, rfl⟩ :=
      Decimal.exists_mantissaText hd
    cases heq
    refine ⟨sign ++ (mantissa ++ exponent), ?_, .decimal hsign hmantissa hexponent⟩
    rw [List.append_assoc, List.append_assoc, ← hrest]
    exact htext

theorem Literal.exists_scan (h : Literal literal n) (rest : List Char) :
    ∃ more tail m, rest = more ++ tail ∧ scan (literal ++ rest) = some (m, tail) ∧
      (more = [] → m = n) := by
  cases h with
  | infinity hsign =>
      refine ⟨[], rest, _, rfl, ?_, fun _ => rfl⟩
      have hhead : ∀ c ∈ (infinityWord ++ rest).head?, c ≠ '-' ∧ c ≠ '+' := by
        rintro c ⟨⟩
        decide
      have hword : infinityWord.isPrefixOf (infinityWord ++ rest) = true :=
        List.isPrefixOf_iff_prefix.mpr (List.prefix_append _ _)
      rw [scan, List.append_assoc, hsign.scanSign_append hhead]
      simp only [hword, if_true, List.drop_left]
  | @decimal sign mantissa digits exponent negative places e hsign hmantissa hexponent =>
      obtain ⟨c, others, hcons, hc⟩ := hmantissa.exists_cons
      obtain ⟨hminus, hplus, hletter⟩ := Decimal.not_sign_of_digit_or_point hc
      obtain ⟨more, tail, d, hrest, hscan, hd⟩ := hmantissa.exists_scan hexponent _ rest
      refine ⟨more, tail, d.toNumber, hrest, ?_, fun hmore => by rw [hd hmore]⟩
      have hhead : ∀ a ∈ (c :: (others ++ (exponent ++ rest))).head?, a ≠ '-' ∧ a ≠ '+' := by
        rintro a ⟨⟩
        exact ⟨hminus, hplus⟩
      have hword : infinityWord.isPrefixOf (c :: (others ++ (exponent ++ rest))) = false := by
        simp [infinityWord, List.isPrefixOf, hletter.symm]
      rw [hcons, List.cons_append] at hscan
      rw [scan, List.append_assoc, List.append_assoc, hcons, List.cons_append,
        hsign.scanSign_append hhead]
      simp only [hword, Bool.false_eq_true, if_false, hscan, Option.map_some]

/-- The literals are the texts that are scanned to their ends. -/
theorem scan_eq_some_nil_iff : scan literal = some (n, []) ↔ Literal literal n := by
  constructor
  · intro h
    obtain ⟨_, rfl, hliteral⟩ := exists_literal h
    rwa [List.append_nil]
  · intro h
    obtain ⟨more, tail, m, hrest, hscan, hm⟩ := h.exists_scan []
    obtain ⟨rfl, rfl⟩ := List.append_eq_nil_iff.mp hrest.symm
    rw [List.append_nil, hm rfl] at hscan
    exact hscan

/-- The scan of a text that starts with a literal takes at least this literal. -/
theorem Literal.isSuffix_of_scan (h : Literal literal n) {rest : List Char} {m : Number}
    (hscan : scan (literal ++ rest) = some (m, tail)) : tail <:+ rest := by
  obtain ⟨more, tail', m', hrest, hscan', -⟩ := h.exists_scan rest
  rw [hscan'] at hscan
  cases hscan
  exact ⟨more, hrest.symm⟩

theorem Literal.ne_nil (h : Literal literal n) : literal ≠ [] := by
  rintro rfl
  cases scan_eq_some_nil_iff.mpr h

theorem Literal.isBlank_eq (h : Literal literal n) : ∀ c ∈ literal, Text.isBlank c = false := by
  have hdigits {digits : List Char} (hall : ∀ c ∈ digits, Decimal.isDigit c = true) :
      ∀ c ∈ digits, Text.isBlank c = false := fun c hc => Text.isBlank_of_isDigit (hall c hc)
  have hsigns {sign : List Char} {negative : Bool} (hsign : Decimal.SignText sign negative) :
      ∀ c ∈ sign, Text.isBlank c = false := by
    cases hsign with
    | none => exact List.forall_mem_nil _
    | plus | minus => exact List.forall_mem_singleton.mpr rfl
  cases h with
  | infinity hsign =>
      have hletters : infinityWord.all (!Text.isBlank ·) = true := by decide
      rw [List.forall_mem_append]
      exact ⟨hsigns hsign, fun c hc => by simpa using List.all_eq_true.mp hletters c hc⟩
  | decimal hsign hmantissa hexponent =>
      rw [List.forall_mem_append, List.forall_mem_append]
      refine ⟨hsigns hsign, ?_, ?_⟩
      · cases hmantissa with
        | whole h => exact hdigits h.2
        | pointed h =>
            have hboth := List.forall_mem_append.mp h.2
            rw [List.forall_mem_append, List.forall_mem_cons]
            exact ⟨hdigits hboth.1, by decide, hdigits hboth.2⟩
      · cases hexponent with
        | none => simp
        | marked hmark hsign h =>
            rw [List.forall_mem_cons, List.forall_mem_append]
            refine ⟨?_, hsigns hsign, hdigits h.2⟩
            rcases hmark with rfl | rfl <;> decide

theorem ofText?_eq_some_iff_literal : ofText? text = some n ↔ Literal (Text.trim text) n :=
  ofText?_eq_some_iff.trans scan_eq_some_nil_iff

/-- A number that is followed by blanks only is still the number at the start of its text. -/
theorem exists_scan_trimStart (h : ofText? text = some n) :
    ∃ blanks, scan (Text.trimStart text) = some (n, blanks) := by
  have hliteral := ofText?_eq_some_iff_literal.mp h
  obtain ⟨blanks, hblanks, hall⟩ := Text.exists_trimStart_eq text
  obtain ⟨more, tail, m, hrest, hscan, hm⟩ := hliteral.exists_scan blanks
  -- What the scan takes is a literal, so it has no blanks.
  obtain ⟨taken, htaken, hread⟩ := exists_literal hscan
  rw [hrest, ← List.append_assoc, List.append_left_inj] at htaken
  have hnone : more = [] := by
    rw [List.eq_nil_iff_forall_not_mem]
    intro c hc
    have hblank := hall c (by simp [hrest, hc])
    rw [hread.isBlank_eq c (by simp [← htaken, hc])] at hblank
    cases hblank
  exact ⟨tail, by rw [hblanks, hscan, hm hnone]⟩

end Number

end TableQuery
