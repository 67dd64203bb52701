import TableQuery.Proofs.Cell.Literal
import TableQuery.Proofs.Cell.LooseText
import TableQuery.Proofs.Number.Appended
import TableQuery.Proofs.Number.Places

/-!
# Integers with a radix mark

The digits behind a radix mark are appended one by one, and the number is rounded
after each of them. Below `2 ^ 53` nothing is lost. From there on a digit is less
than half a step of the number that it is appended to, so all further digits count
as zeros.
-/

namespace TableQuery

namespace Magnitude

variable {n : Nat}

theorem isFinite_ofNat_iff : (ofNat n).isFinite ↔ codeOf n < top := by
  rw [isFinite_iff, code_ofNat]
  omega

theorem value_ofNat (h : codeOf n < top) : (ofNat n).value = valueOf (codeOf n) := by
  rw [value, code_ofNat, Nat.min_eq_left h.le]

theorem ofDecimal_zero (n : Nat) : ofDecimal n 0 = ofNat n := by
  refine code_injective ?_
  rcases Nat.eq_zero_or_pos n with rfl | hpos
  · rw [code_ofNat, Nat.cast_zero, codeOf_zero, Nat.zero_min]
    rfl
  · rw [code_ofDecimal hpos.ne' (by decide) (by decide), code_ofNat, zpow_zero, mul_one]

theorem add_signed {m n : Magnitude} (hm : m.isFinite) (hn : n.isFinite) :
    ∃ p : Magnitude, Number.add (.signed false m) (.signed false n) = .signed false p ∧
      p.code = min (codeOf (m.value + n.value)) top := by
  obtain ⟨p, hp⟩ := Number.exists_add_signed_false m n
  have hplace := Number.place_add (Number.place_signed false m) (Number.place_signed false n) hm hn
  have hnonneg : 0 ≤ valueOf m.code + valueOf n.code := add_nonneg m.value_nonneg n.value_nonneg
  simp only [Bool.false_eq_true, if_false, Number.valueAt_natCast,
    Number.placeOf_of_nonneg hnonneg, hp, Number.place_signed, Option.some_inj,
    Nat.cast_inj] at hplace
  exact ⟨p, hp, hplace⟩

end Magnitude

namespace Number

open Magnitude (codeOf valueOf top isFinite_ofNat_iff value_ofNat code_ofNat code_injective
  valueOf_codeOf_natCast)

/-! ## Appending one digit -/

variable {n d k : Nat}

theorem ofNat_eq_infinity (h : top ≤ codeOf n) : ofNat n = infinity := by
  have hcode : top ≤ (Magnitude.ofNat n).code := by rw [code_ofNat, Nat.min_eq_right h]
  rw [ofNat, Magnitude.eq_infinity hcode, infinity]

theorem ofNat_mul_eq {m product : Nat} (hm : codeOf m < top) (hn : codeOf n < top)
    (h : codeOf (valueOf (codeOf m) * valueOf (codeOf n)) = codeOf product) :
    (ofNat m).mul (ofNat n) = ofNat product := by
  obtain ⟨p, hp, hcode⟩ :=
    Magnitude.mul_signed (isFinite_ofNat_iff.mpr hm) (isFinite_ofNat_iff.mpr hn)
  rw [value_ofNat hm, value_ofNat hn, h, ← code_ofNat] at hcode
  rw [ofNat, ofNat, hp, code_injective hcode, ofNat]

theorem ofNat_add_eq {m sum : Nat} (hm : codeOf m < top) (hn : codeOf n < top)
    (h : codeOf (valueOf (codeOf m) + valueOf (codeOf n)) = codeOf sum) :
    (ofNat m).add (ofNat n) = ofNat sum := by
  obtain ⟨p, hp, hcode⟩ :=
    Magnitude.add_signed (isFinite_ofNat_iff.mpr hm) (isFinite_ofNat_iff.mpr hn)
  rw [value_ofNat hm, value_ofNat hn, h, ← code_ofNat] at hcode
  rw [ofNat, ofNat, hp, code_injective hcode, ofNat]

theorem infinity_mul_ofNat (hpos : 0 < n) : infinity.mul (ofNat n) = infinity := by
  have htop : 0 < top := by decide
  have hcode : (Magnitude.ofNat n).code ≠ 0 := by
    have hne := Magnitude.codeOf_natCast_ne_zero hpos
    rw [code_ofNat]
    omega
  have hinfinite : Magnitude.infinity.code ≠ 0 := htop.ne'
  simp [infinity, ofNat, mul, Magnitude.isFinite_infinity, hcode, hinfinite]

theorem infinity_add_ofNat (h : codeOf n < top) : infinity.add (ofNat n) = infinity := by
  have hfinite := isFinite_ofNat_iff.mpr h
  simp [infinity, ofNat, add, Magnitude.isFinite_infinity, hfinite]

theorem codeOf_lt_top_of_le (h : n ≤ 2 ^ 57) : codeOf n < top := by
  have hlimit : 10 ^ 18 < Magnitude.overflowLimit := Magnitude.ten_pow_lt_overflowLimit (by decide)
  have hpower : 2 ^ 57 ≤ 10 ^ 18 := by decide
  exact Magnitude.codeOf_natCast_lt_top ((h.trans hpower).trans_lt hlimit)

section Step

variable (hk : k ≤ 4)
include hk

theorem radix_le : 2 ^ k ≤ 2 ^ 4 := Nat.pow_le_pow_right (by decide) hk

/-- Below `2 ^ 53` nothing is lost. -/
theorem ofNat_append_of_lt (hn : n < 2 ^ 53) (hd : d < 2 ^ k) :
    ((ofNat n).mul (ofNat (2 ^ k))).add (ofNat d) = ofNat (n * 2 ^ k + d) := by
  have hradix := radix_le hk
  have hproduct : n * 2 ^ k ≤ 2 ^ 57 := (Nat.mul_le_mul hn.le hradix).trans_eq (by decide)
  have hvalue : valueOf (codeOf ((n * 2 ^ k : Nat) : ℚ)) = (n * 2 ^ k : Nat) := by
    push_cast
    exact Magnitude.valueOf_codeOf_mul_two_pow hn.le k
  have hmul : (ofNat n).mul (ofNat (2 ^ k)) = ofNat (n * 2 ^ k) := by
    refine ofNat_mul_eq (codeOf_lt_top_of_le (by omega)) (codeOf_lt_top_of_le (by omega)) ?_
    rw [valueOf_codeOf_natCast hn.le, valueOf_codeOf_natCast (by omega),
      ← Nat.cast_mul]
  rw [hmul]
  refine ofNat_add_eq (codeOf_lt_top_of_le hproduct) (codeOf_lt_top_of_le (by omega)) ?_
  rw [hvalue, valueOf_codeOf_natCast (by omega), ← Nat.cast_add]

theorem ofNat_mul_two_pow (hn : 2 ^ 53 ≤ n) :
    (ofNat n).mul (ofNat (2 ^ k)) = ofNat (n * 2 ^ k) := by
  have hradix := radix_le hk
  have hmoved := Magnitude.codeOf_mul_two_pow hn k
  rcases Nat.lt_or_ge (codeOf n) top with hlt | hge
  · refine ofNat_mul_eq hlt (codeOf_lt_top_of_le (by omega)) ?_
    rw [hmoved, valueOf_codeOf_natCast (n := 2 ^ k) (by omega), Nat.cast_pow,
      Nat.cast_ofNat, ← Magnitude.valueOf_add_mul_runLength (Magnitude.runLength_le_codeOf (by omega)),
      Magnitude.codeOf_valueOf]
  · -- What is out of range already stays there.
    rw [ofNat_eq_infinity hge, ofNat_eq_infinity (n := n * 2 ^ k) (by omega),
      infinity_mul_ofNat (Nat.two_pow_pos k)]

/-- From `2 ^ 53` on the digit is lost. -/
theorem ofNat_append_of_le (hn : 2 ^ 53 ≤ n) (hd : d < 2 ^ k) :
    ((ofNat n).mul (ofNat (2 ^ k))).add (ofNat d) = ofNat (n * 2 ^ k) := by
  have hradix := radix_le hk
  have hdigit : codeOf d < top := codeOf_lt_top_of_le (by omega)
  rw [ofNat_mul_two_pow hk hn]
  rcases Nat.lt_or_ge (codeOf ((n * 2 ^ k : Nat) : ℚ)) top with hlt | hge
  · refine ofNat_add_eq hlt hdigit ?_
    rw [valueOf_codeOf_natCast (n := d) (by omega), Magnitude.codeOf_mul_two_pow hn,
      Magnitude.codeOf_valueOf_mul_two_pow_add hn hd]
  · rw [ofNat_eq_infinity hge, infinity_add_ofNat hdigit]

end Step

/-- An integer with a digit appended, which counts as zero from `2 ^ 53` on. -/
def appended (radix n d : Nat) : Nat := n * radix + if n < 2 ^ 53 then d else 0

theorem ofNat_append (n : Nat) (hk : k ≤ 4) (hd : d < 2 ^ k) :
    ((ofNat n).mul (ofNat (2 ^ k))).add (ofNat d) = ofNat (appended (2 ^ k) n d) := by
  rw [appended]
  rcases Nat.lt_or_ge n (2 ^ 53) with hlt | hge
  · rw [if_pos hlt, ofNat_append_of_lt hk hlt hd]
  · rw [if_neg (Nat.not_lt.mpr hge), ofNat_append_of_le hk hge hd, Nat.add_zero]

/-! ## Appending all digits -/

/-- The integer that digits of a radix write. -/
def radixValue (radix : Nat) (digits : List Char) : Nat :=
  digits.foldl (fun n c => n * radix + (radixDigit? radix c).getD 0) 0

/-- The integer that is left when all digits count as zeros that come after `2 ^ 53` is reached. -/
def keptValue (radix : Nat) (digits : List Char) : Nat :=
  digits.foldl (fun n c => appended radix n ((radixDigit? radix c).getD 0)) 0

variable {radix : Nat} {digits : List Char}

theorem lt_of_radixDigit? {c : Char} (h : radixDigit? radix c = some d) : d < radix := by
  rw [radixDigit?, Option.filter_eq_some_iff] at h
  simpa using h.2

theorem foldlM_appendDigit? (hk : k ≤ 4) (h : ∀ c ∈ digits, (radixDigit? (2 ^ k) c).isSome)
    (n : Nat) : digits.foldlM (appendDigit? (2 ^ k)) (ofNat n) =
      some (ofNat (digits.foldl
        (fun n c => appended (2 ^ k) n ((radixDigit? (2 ^ k) c).getD 0)) n)) := by
  induction digits generalizing n with
  | nil => rfl
  | cons c digits ih =>
      rw [List.forall_mem_cons] at h
      obtain ⟨d, hd⟩ := Option.isSome_iff_exists.mp h.1
      have hstep : appendDigit? (2 ^ k) (ofNat n) c = some (ofNat (appended (2 ^ k) n d)) := by
        rw [appendDigit?, hd, Option.map_some, ofNat_append n hk (lt_of_radixDigit? hd)]
      rw [List.foldlM_cons, hstep, List.foldl_cons, hd]
      exact ih h.2 _

theorem ofNat_zero : ofNat 0 = zero := by
  rw [ofNat, ← Magnitude.ofDecimal_zero]
  rfl

theorem exists_radix_eq {mark : Char} (h : (mark, radix) ∈ radixMarks) :
    ∃ k ≤ 4, radix = 2 ^ k := by
  rw [mem_radixMarks_iff] at h
  rcases h with ⟨-, rfl⟩ | ⟨-, rfl⟩ | ⟨-, rfl⟩ | ⟨-, rfl⟩ | ⟨-, rfl⟩ | ⟨-, rfl⟩
  · exact ⟨4, by decide, rfl⟩
  · exact ⟨4, by decide, rfl⟩
  · exact ⟨3, by decide, rfl⟩
  · exact ⟨3, by decide, rfl⟩
  · exact ⟨1, by decide, rfl⟩
  · exact ⟨1, by decide, rfl⟩

theorem ofRadixDigits_eq_ofNat {mark : Char} (hmark : (mark, radix) ∈ radixMarks)
    (hne : digits ≠ []) (h : ∀ c ∈ digits, (radixDigit? radix c).isSome) :
    ofRadixDigits radix digits = ofNat (keptValue radix digits) := by
  obtain ⟨k, hk, rfl⟩ := exists_radix_eq hmark
  have hfilled : digits.isEmpty = false := by simpa using hne
  rw [ofRadixDigits_eq, hfilled, ← ofNat_zero, foldlM_appendDigit? hk h 0, keptValue]
  rfl

/-! ## What is left out -/

/-- The first integer is the second one, or the leading part of it. -/
inductive Keeps : Nat → Nat → Prop
  | all (n : Nat) : Keeps n n
  | leading {n b s : Nat} (hn : 2 ^ 53 ≤ n) (hb : b < 2 ^ s) : Keeps (n * 2 ^ s) (n * 2 ^ s + b)

theorem Keeps.append {kept whole : Nat} (h : Keeps kept whole) (hd : d < 2 ^ k) :
    Keeps (appended (2 ^ k) kept d) (whole * 2 ^ k + d) := by
  rw [appended]
  cases h with
  | all =>
      rcases Nat.lt_or_ge kept (2 ^ 53) with hlt | hge
      · rw [if_pos hlt]
        exact .all _
      · rw [if_neg (Nat.not_lt.mpr hge)]
        exact .leading hge hd
  | @leading n b s hn hb =>
      -- The digit joins the part that is left out.
      have hlarge : ¬ n * 2 ^ s < 2 ^ 53 :=
        Nat.not_lt.mpr (hn.trans (Nat.le_mul_of_pos_right n (Nat.two_pow_pos s)))
      have hkept : n * 2 ^ s * 2 ^ k + 0 = n * 2 ^ (s + k) := by
        rw [Nat.add_zero, Nat.mul_assoc, ← Nat.pow_add]
      have hwhole : (n * 2 ^ s + b) * 2 ^ k + d = n * 2 ^ (s + k) + (b * 2 ^ k + d) := by
        rw [Nat.add_mul, Nat.mul_assoc, ← Nat.pow_add, Nat.add_assoc]
      have hrest : b * 2 ^ k + d < 2 ^ (s + k) := by
        have hle := Nat.mul_le_mul_right (2 ^ k) (Nat.succ_le_of_lt hb)
        rw [Nat.succ_mul, ← Nat.pow_add] at hle
        omega
      rw [if_neg hlarge, hkept, hwhole]
      exact .leading hn hrest

theorem Keeps.foldl {kept whole : Nat} (h : Keeps kept whole)
    (hdigits : ∀ c ∈ digits, (radixDigit? (2 ^ k) c).isSome) :
    Keeps (digits.foldl (fun n c => appended (2 ^ k) n ((radixDigit? (2 ^ k) c).getD 0)) kept)
      (digits.foldl (fun n c => n * 2 ^ k + (radixDigit? (2 ^ k) c).getD 0) whole) := by
  induction digits generalizing kept whole with
  | nil => exact h
  | cons c digits ih =>
      rw [List.forall_mem_cons] at hdigits
      obtain ⟨d, hd⟩ := Option.isSome_iff_exists.mp hdigits.1
      rw [List.foldl_cons, List.foldl_cons, hd, Option.getD_some]
      exact ih (h.append (lt_of_radixDigit? hd)) hdigits.2

theorem keeps_keptValue {mark : Char} (hmark : (mark, radix) ∈ radixMarks)
    (h : ∀ c ∈ digits, (radixDigit? radix c).isSome) :
    Keeps (keptValue radix digits) (radixValue radix digits) := by
  obtain ⟨k, -, rfl⟩ := exists_radix_eq hmark
  exact (Keeps.all 0).foldl h

theorem Keeps.ofNat_eq_iff {kept whole : Nat} (h : Keeps kept whole) :
    ofNat kept = ofNat whole ↔
      ¬(kept < whole ∧ Magnitude.IsLowTie kept ∧ (ofNat kept).isFinite) := by
  cases h with
  | all => simp
  | @leading n b s hn hb =>
      rw [eq_comm, Nat.lt_add_right_iff_pos]
      have hiff := Magnitude.ofNat_mul_two_pow_add_eq_iff hn hb
      simp [ofNat, isFinite, hiff]

theorem numericEq_ofNat_iff {m n : Nat} :
    (ofNat m).numericEq (ofNat n) = true ↔ ofNat m = ofNat n := by
  rw [ofNat, ofNat, numericEq_iff (place_signed false _) (place_signed false _)]
  constructor
  · intro hplace
    exact congrArg (signed false) (code_injective (by simpa using hplace))
  · intro heq
    obtain ⟨-, hmagnitude⟩ := Number.signed.inj heq
    rw [hmagnitude]

/-! ## Decimal texts -/

theorem literal_toDigits (n : Nat) : Literal (Nat.toDigits 10 n) (ofNat n) := by
  have hliteral := Literal.decimal .none (.whole (Json.isDigits_toDigits n)) .none
  have hnumber : Decimal.toNumber ⟨false, n, 0 - (0 : Nat)⟩ = ofNat n := by
    rw [Decimal.toNumber, ofNat, Nat.cast_zero, sub_zero, Magnitude.ofDecimal_zero]
  rw [Decimal.ofDigits_toDigits, hnumber] at hliteral
  simpa using hliteral

theorem ofLooseText_toDigits (n : Nat) : ofLooseText (Nat.toDigits 10 n) = ofNat n := by
  have hliteral := literal_toDigits n
  refine ofLooseText_eq (ofText?_eq_some_iff_literal.mpr ?_)
  rwa [Text.trim_of_forall_not_blank hliteral.isBlank_eq]

/-! ## Texts with a radix mark -/

variable {mark : Char} {lead trail : List Char}

theorem isBlank_of_radixDigit? {c : Char} (h : (radixDigit? radix c).isSome) :
    Text.isBlank c = false := by
  have hrange : (48 ≤ c.toNat ∧ c.toNat ≤ 57) ∨ (97 ≤ c.toNat ∧ c.toNat ≤ 102) ∨
      65 ≤ c.toNat ∧ c.toNat ≤ 70 := by
    simp only [radixDigit?, Bool.and_eq_true, decide_eq_true_eq, Char.le_def,
      UInt32.le_iff_toNat_le] at h
    split at h
    · next hdigit => exact .inl hdigit
    split at h
    · next hsmall => exact .inr (.inl hsmall)
    split at h
    · next hcapital => exact .inr (.inr hcapital)
    · cases h
  simp [Text.isBlank, Text.inRanges, Text.blankRanges]
  omega

theorem isBlank_of_mem_radixMarks (h : (mark, radix) ∈ radixMarks) :
    Text.isBlank mark = false := by
  have hall : ∀ pair ∈ radixMarks, Text.isBlank pair.1 = false := by decide
  exact hall (mark, radix) h

theorem ofLooseText_radix (hmark : (mark, radix) ∈ radixMarks) (hne : digits ≠ [])
    (h : ∀ c ∈ digits, (radixDigit? radix c).isSome) (hlead : ∀ c ∈ lead, Text.isBlank c = true)
    (htrail : ∀ c ∈ trail, Text.isBlank c = true) :
    ofLooseText (lead ++ ('0' :: mark :: digits ++ trail)) = ofNat (keptValue radix digits) := by
  have hblank : ∀ c ∈ '0' :: mark :: digits, Text.isBlank c = false := by
    rw [List.forall_mem_cons, List.forall_mem_cons]
    exact ⟨rfl, isBlank_of_mem_radixMarks hmark, fun c hc => isBlank_of_radixDigit? (h c hc)⟩
  have hmarked : radixMark? ('0' :: mark :: digits) = some (radix, digits) :=
    radixMark?_eq_some_iff.mpr ⟨mark, rfl, hmark⟩
  rw [ofLooseText, Text.trim_append hlead htrail, Text.trim_of_forall_not_blank hblank, hmarked,
    ← ofRadixDigits_eq_ofNat hmark hne h]
  rfl

/-- The text of an integer in a radix, between blanks, and its decimal text. The decimal text is read
as the nearest number. The text in the radix is read as the number nearest to what is left of the
integer when all digits count as zeros that come after `2 ^ 53` is reached. So the two are the same
number, and equal the same numbers as texts of cells, exactly if no digit that counts as zero has to
decide a tie in range that would be rounded down. -/
theorem ofLooseText_radix_tfae (hmark : (mark, radix) ∈ radixMarks) (hne : digits ≠ [])
    (h : ∀ c ∈ digits, (radixDigit? radix c).isSome) (hlead : ∀ c ∈ lead, Text.isBlank c = true)
    (htrail : ∀ c ∈ trail, Text.isBlank c = true) :
    ofLooseText (Nat.toDigits 10 (radixValue radix digits)) = ofNat (radixValue radix digits) ∧
      ofLooseText (lead ++ ('0' :: mark :: digits ++ trail)) = ofNat (keptValue radix digits) ∧
      List.TFAE [
        ofLooseText (lead ++ ('0' :: mark :: digits ++ trail)) =
          ofLooseText (Nat.toDigits 10 (radixValue radix digits)),
        ∀ x : Number,
          Cell.looseEq (.number x)
              (.text (String.ofList (lead ++ ('0' :: mark :: digits ++ trail)))) =
            Cell.looseEq (.number x)
              (.text (String.ofList (Nat.toDigits 10 (radixValue radix digits)))),
        ¬(keptValue radix digits < radixValue radix digits ∧
          Magnitude.IsLowTie (keptValue radix digits) ∧
            (ofNat (keptValue radix digits)).isFinite)] := by
  have hdecimal := ofLooseText_toDigits (radixValue radix digits)
  have hradix := ofLooseText_radix hmark hne h hlead htrail
  refine ⟨hdecimal, hradix, ?_⟩
  simp only [Cell.looseEq, String.toList_ofList, hdecimal, hradix]
  rw [← (keeps_keptValue hmark h).ofNat_eq_iff]
  tfae_have 1 → 2 := fun heq x => by rw [heq]
  tfae_have 2 → 1 := by
    intro hall
    have hself := hall (ofNat (radixValue radix digits))
    rw [numericEq_ofNat_iff.mpr rfl, numericEq_ofNat_iff] at hself
    exact hself.symm
  tfae_have 1 ↔ 3 := Iff.rfl
  tfae_finish

/-- The last two digits count as zeros, but they do not reach half of the step of `512`. -/
theorem ofLooseText_radix_tfae_long :
    radixValue 16 "20000000000000f1".toList = 2305843009213694193 ∧
      keptValue 16 "20000000000000f1".toList = 2 ^ 61 ∧
      ofLooseText " 0X20000000000000f1\t".toList = ofLooseText "2305843009213694193".toList := by
  obtain ⟨hdigits, hvalue, hkept⟩ :
      "20000000000000f1".toList.all (fun c => (radixDigit? 16 c).isSome) ∧
        radixValue 16 "20000000000000f1".toList = 2305843009213694193 ∧
          keptValue 16 "20000000000000f1".toList = 2 ^ 61 := by decide +kernel
  have htie : ¬Magnitude.IsLowTie (2 ^ 61) := by
    rw [Magnitude.isLowTie_iff (e := 8) (by decide)]
    decide
  have hmark : ('X', 16) ∈ radixMarks := by decide
  have hlead : ∀ c ∈ [' '], Text.isBlank c = true := List.forall_mem_singleton.mpr rfl
  have htrail : ∀ c ∈ ['\t'], Text.isBlank c = true := List.forall_mem_singleton.mpr rfl
  have hall := ofLooseText_radix_tfae hmark (by decide) (List.all_eq_true.mp hdigits) hlead htrail
  rw [hvalue, hkept] at hall
  have hiff := hall.2.2.out 0 2
  exact ⟨hvalue, hkept, hiff.mpr fun h => htie h.2.1⟩

/-- The last digit but one makes a tie, which is rounded down before the last digit is seen. -/
theorem ofLooseText_radix_tie :
    radixValue 16 "200000000000011".toList = 144115188075855889 ∧
      ofLooseText "0x200000000000011".toList ≠ ofLooseText "144115188075855889".toList := by
  decide +kernel

end Number

end TableQuery
