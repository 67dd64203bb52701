import TableQuery.Proofs.Cell.Reading

/-!
# Which texts equal a number

Loose equality reads blank text as zero, a radix mark with digits as an integer,
and any other text as the number that it is as a whole. Appending a digit keeps a
number that is not negative, infinity too, so digits of the radix never lead to a
value that is not a number. This is what is read only when nothing else can be.
-/

namespace TableQuery.Number

/-! ## Appending digits -/

theorem exists_add_signed_false (m n : Magnitude) :
    ∃ p, add (.signed false m) (.signed false n) = .signed false p := by
  rw [add]
  split
  · have htotal : ¬signedUnits false m + signedUnits false n < 0 := by
      simp only [signedUnits, Bool.false_eq_true, if_false]
      omega
    simp only [htotal, decide_false, Bool.and_false]
    split <;> exact ⟨_, rfl⟩
  · split
    · exact ⟨n, rfl⟩
    · simp only [BEq.rfl, Bool.or_true, if_true]
      exact ⟨m, rfl⟩

theorem exists_mul_signed_false (m : Magnitude) {n : Magnitude} (hfinite : n.isFinite)
    (hpos : n.code ≠ 0) : ∃ p, mul (.signed false m) (.signed false n) = .signed false p := by
  rw [mul, hfinite]
  split
  · exact ⟨_, rfl⟩
  · next hm =>
    -- The factor that is not finite is not zero either.
    have hcode : m.code ≠ 0 := by
      intro hzero
      rw [Magnitude.isFinite, hzero] at hm
      exact hm rfl
    simp only [hcode, hpos, decide_false, Bool.or_false, Bool.false_eq_true, if_false]
    exact ⟨_, rfl⟩

/-- A number with a digit appended, if the character is one. -/
def appendDigit? (radix : Nat) (n : Number) (c : Char) : Option Number :=
  (radixDigit? radix c).map fun d => (n.mul (.ofNat radix)).add (.ofNat d)

theorem ofRadixDigits_eq (radix : Nat) (digits : List Char) : ofRadixDigits radix digits =
    if digits.isEmpty then nan else (digits.foldlM (appendDigit? radix) zero).getD nan := rfl

variable {radix : Nat} {digits : List Char}

theorem exists_foldlM_appendDigit? (hfinite : (Magnitude.ofNat radix).isFinite)
    (hpos : (Magnitude.ofNat radix).code ≠ 0) (h : ∀ c ∈ digits, (radixDigit? radix c).isSome)
    (m : Magnitude) : ∃ p, digits.foldlM (appendDigit? radix) (.signed false m) =
      some (.signed false p) := by
  induction digits generalizing m with
  | nil => exact ⟨m, rfl⟩
  | cons c digits ih =>
      rw [List.forall_mem_cons] at h
      obtain ⟨d, hd⟩ := Option.isSome_iff_exists.mp h.1
      obtain ⟨p, hmul⟩ := exists_mul_signed_false m hfinite hpos
      obtain ⟨q, hadd⟩ := exists_add_signed_false p (.ofNat d)
      have hstep : appendDigit? radix (.signed false m) c = some (.signed false q) := by
        rw [appendDigit?, hd, ofNat, hmul, Option.map_some, ofNat, hadd]
      rw [List.foldlM_cons, hstep]
      exact ih h.2 q

theorem isSome_of_foldlM_appendDigit? {n m : Number}
    (h : digits.foldlM (appendDigit? radix) n = some m) :
    ∀ c ∈ digits, (radixDigit? radix c).isSome := by
  induction digits generalizing n with
  | nil => simp
  | cons c digits ih =>
      rw [List.foldlM_cons] at h
      obtain ⟨next, hstep, hrest⟩ := Option.bind_eq_some_iff.mp h
      obtain ⟨d, hd, -⟩ := Option.map_eq_some_iff.mp hstep
      rw [List.forall_mem_cons]
      exact ⟨by rw [hd]; rfl, ih hrest⟩

theorem ofRadixDigits_ne_nan_iff (hfinite : (Magnitude.ofNat radix).isFinite)
    (hpos : (Magnitude.ofNat radix).code ≠ 0) : ofRadixDigits radix digits ≠ nan ↔
      digits ≠ [] ∧ ∀ c ∈ digits, (radixDigit? radix c).isSome := by
  rw [ofRadixDigits_eq]
  split
  · next hnone => simp [List.isEmpty_iff.mp hnone]
  · next hsome =>
    rw [List.isEmpty_iff] at hsome
    constructor
    · intro hne
      cases hfold : digits.foldlM (appendDigit? radix) zero with
      | none => exact absurd (by rw [hfold]; rfl) hne
      | some n => exact ⟨hsome, isSome_of_foldlM_appendDigit? hfold⟩
    · rintro ⟨-, hall⟩
      obtain ⟨p, hp⟩ := exists_foldlM_appendDigit? hfinite hpos hall .zero
      rw [zero, hp]
      exact Number.noConfusion

/-! ## Radix marks -/

variable {text : List Char} {n : Number}

/-- The marks with the radices that they announce. -/
def radixMarks : List (Char × Nat) :=
  [('x', 16), ('X', 16), ('o', 8), ('O', 8), ('b', 2), ('B', 2)]

theorem mem_radixMarks_iff {mark : Char} {radix : Nat} : (mark, radix) ∈ radixMarks ↔
    mark = 'x' ∧ radix = 16 ∨ mark = 'X' ∧ radix = 16 ∨ mark = 'o' ∧ radix = 8 ∨
      mark = 'O' ∧ radix = 8 ∨ mark = 'b' ∧ radix = 2 ∨ mark = 'B' ∧ radix = 2 := by
  simp [radixMarks]

theorem radixMark?_eq_some_iff {radix : Nat} {digits : List Char} :
    radixMark? text = some (radix, digits) ↔
      ∃ mark, text = '0' :: mark :: digits ∧ (mark, radix) ∈ radixMarks := by
  constructor
  · intro h
    rw [radixMark?.eq_def] at h
    split at h
    · next mark rest =>
      refine ⟨mark, ?_⟩
      rw [mem_radixMarks_iff]
      grind
    · cases h
  · rintro ⟨mark, rfl, hmark⟩
    rw [mem_radixMarks_iff] at hmark
    rcases hmark with ⟨rfl, rfl⟩ | ⟨rfl, rfl⟩ | ⟨rfl, rfl⟩ | ⟨rfl, rfl⟩ | ⟨rfl, rfl⟩ |
      ⟨rfl, rfl⟩ <;> rfl

/-- A radix mark would be left over behind the zero before it. -/
theorem radixMark?_eq_none (h : scan text = some (n, [])) : radixMark? text = none := by
  by_contra hsome
  obtain ⟨⟨radix, digits⟩, hmark⟩ := Option.ne_none_iff_exists'.mp hsome
  obtain ⟨mark, rfl, hmem⟩ := radixMark?_eq_some_iff.mp hmark
  rw [mem_radixMarks_iff] at hmem
  rcases hmem with ⟨rfl, -⟩ | ⟨rfl, -⟩ | ⟨rfl, -⟩ | ⟨rfl, -⟩ | ⟨rfl, -⟩ | ⟨rfl, -⟩ <;> cases h

/-- A zero, a radix mark, and then digits of the radix, of at least one. -/
def IsRadixLiteral (text : List Char) : Prop :=
  ∃ mark radix digits, text = '0' :: mark :: digits ∧ (mark, radix) ∈ radixMarks ∧
    digits ≠ [] ∧ ∀ c ∈ digits, (radixDigit? radix c).isSome

theorem ofNat_of_mem_radixMarks {mark : Char} (h : (mark, radix) ∈ radixMarks) :
    (Magnitude.ofNat radix).isFinite ∧ (Magnitude.ofNat radix).code ≠ 0 := by
  have hall : ∀ pair ∈ radixMarks,
      (Magnitude.ofNat pair.2).isFinite ∧ (Magnitude.ofNat pair.2).code ≠ 0 := by decide +kernel
  exact hall (mark, radix) h

theorem isRadixLiteral_iff (h : radixMark? text = some (radix, digits)) :
    IsRadixLiteral text ↔ ofRadixDigits radix digits ≠ nan := by
  obtain ⟨mark, rfl, hmark⟩ := radixMark?_eq_some_iff.mp h
  obtain ⟨hfinite, hpos⟩ := ofNat_of_mem_radixMarks hmark
  rw [ofRadixDigits_ne_nan_iff hfinite hpos]
  constructor
  · rintro ⟨mark', radix', digits', htext, hmark', hdigits⟩
    have hsame := radixMark?_eq_some_iff.mpr ⟨mark', htext, hmark'⟩
    rw [h] at hsame
    cases hsame
    exact hdigits
  · exact fun hdigits => ⟨mark, radix, digits, rfl, hmark, hdigits⟩

/-! ## Texts -/

theorem ofText?_trim (text : List Char) : ofText? (Text.trim text) = ofText? text := by
  rw [ofText?, ofText?, Text.trim_trim]

theorem ofLooseText_eq (h : ofText? text = some n) : ofLooseText text = n := by
  have hscan := ofText?_eq_some_iff.mp h
  have hfilled : (Text.trim text).isEmpty = false := by
    rw [← Bool.not_eq_true, List.isEmpty_iff]
    intro hnil
    rw [hnil] at hscan
    cases hscan
  rw [ofLooseText, hfilled, radixMark?_eq_none hscan, ofText?, Text.trim_trim, hscan]
  rfl

theorem ofLooseText_of_trim_eq_nil (h : Text.trim text = []) : ofLooseText text = zero := by
  rw [ofLooseText, h]
  rfl

theorem ofLooseText_ne_nan_iff : ofLooseText text ≠ nan ↔
    Text.trim text = [] ∨ IsRadixLiteral (Text.trim text) ∨ ∃ n, ofText? text = some n := by
  by_cases hnil : Text.trim text = []
  · rw [ofLooseText_of_trim_eq_nil hnil]
    exact ⟨fun _ => .inl hnil, fun _ => Number.noConfusion⟩
  · have hfilled : (Text.trim text).isEmpty = false := by simpa using hnil
    rw [ofLooseText, hfilled]
    simp only [hnil, Bool.false_eq_true, if_false, false_or]
    cases hmark : radixMark? (Text.trim text) with
    | some pair =>
        obtain ⟨radix, digits⟩ := pair
        have hnone : ¬∃ n, ofText? text = some n := by
          rintro ⟨n, hn⟩
          rw [radixMark?_eq_none (ofText?_eq_some_iff.mp hn)] at hmark
          cases hmark
        simp only [hnone, or_false]
        exact (isRadixLiteral_iff hmark).symm
    | none =>
        have hradix : ¬IsRadixLiteral (Text.trim text) := by
          rintro ⟨mark, radix, digits, htext, hmem, -⟩
          rw [radixMark?_eq_some_iff.mpr ⟨mark, htext, hmem⟩] at hmark
          cases hmark
        simp only [hradix, false_or, ofText?_trim]
        cases hread : ofText? text with
        | none => simp
        | some n => simpa using scan_ne_nan (ofText?_eq_some_iff.mp hread)

end TableQuery.Number
