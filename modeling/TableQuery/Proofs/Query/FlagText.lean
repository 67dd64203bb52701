import Mathlib.Data.List.Forall2
import TableQuery.Query.Flags

/-!
# Texts of flags

A search flag is read at its first equals sign and a sort flag at its last colon. So a search
flag can name every column without an equals sign, and a sort flag every column: what
stands before the last colon is taken as it is if a direction follows, and a flag without
a direction is all column. A sort flag is refused only if it leaves the column empty, a search
flag also if it has no equals sign.
-/

namespace TableQuery

namespace Text

variable {mark : Char} {text before after : List Char}

/-! ## Splitting at a mark -/

theorem splitFirst_append (after : List Char) (h : mark ∉ before) :
    splitFirst mark (before ++ mark :: after) = some (before, after) := by
  induction before with
  | nil => simp [splitFirst]
  | cons c before ih =>
      rw [List.mem_cons, not_or] at h
      rw [List.cons_append, splitFirst, if_neg (Ne.symm h.1), ih h.2]
      rfl

theorem splitFirst_eq_some_iff :
    splitFirst mark text = some (before, after) ↔
      text = before ++ mark :: after ∧ mark ∉ before := by
  constructor
  · intro h
    have hmem : mark ∈ text := by
      by_contra habsent
      rw [splitFirst_eq_none_iff.mpr habsent] at h
      cases h
    obtain ⟨first, rest, rfl, hfirst⟩ := List.eq_append_cons_of_mem hmem
    rw [splitFirst_append rest hfirst] at h
    cases h
    exact ⟨rfl, hfirst⟩
  · rintro ⟨rfl, h⟩
    exact splitFirst_append after h

theorem splitLast_of_not_mem (h : mark ∉ text) : splitLast mark text = none := by
  induction text with
  | nil => rfl
  | cons c rest ih =>
      rw [List.mem_cons, not_or] at h
      rw [splitLast, ih h.2]
      exact if_neg (Ne.symm h.1)

theorem splitLast_append (before : List Char) (h : mark ∉ after) :
    splitLast mark (before ++ mark :: after) = some (before, after) := by
  induction before with
  | nil =>
      rw [List.nil_append, splitLast, splitLast_of_not_mem h]
      exact if_pos rfl
  | cons c before ih => rw [List.cons_append, splitLast, ih]

theorem splitLast_eq_some_iff :
    splitLast mark text = some (before, after) ↔
      text = before ++ mark :: after ∧ mark ∉ after := by
  constructor
  · intro h
    have hmem : mark ∈ text.reverse := by
      rw [List.mem_reverse]
      by_contra habsent
      rw [splitLast_of_not_mem habsent] at h
      cases h
    -- The last mark is the first one from the end.
    obtain ⟨last, others, hreverse, hlast⟩ := List.eq_append_cons_of_mem hmem
    have htext : text = others.reverse ++ mark :: last.reverse := by
      rw [← List.reverse_reverse text, hreverse]
      simp
    have habsent : mark ∉ last.reverse := hlast ∘ List.mem_reverse.mp
    rw [htext, splitLast_append _ habsent] at h
    cases h
    exact ⟨htext, habsent⟩
  · rintro ⟨rfl, h⟩
    exact splitLast_append before h

/-! ## Words in any letter case -/

/-- A text that is a word in small letters but for the case of its letters. -/
def IsCaseOf (text word : List Char) : Prop :=
  List.Forall₂ (fun c letter => c = letter ∨ c = letter.toUpper) text word

section Letter

variable {c letter : Char}

theorem val_bounds_of_isLower (h : letter.isLower) : 'a'.val ≤ letter.val ∧ letter.val ≤ 'z'.val :=
  (Bool.and_eq_true_iff.mp h).imp of_decide_eq_true of_decide_eq_true

theorem val_toUpper (h : letter.isLower) :
    letter.toUpper.val = letter.val + ('A'.val - 'a'.val) := by
  obtain ⟨hvalid, hupper⟩ :
      ∃ hvalid, letter.toUpper = ⟨letter.val + ('A'.val - 'a'.val), hvalid⟩ :=
    ⟨_, dif_pos (val_bounds_of_isLower h)⟩
  rw [hupper]

theorem isUpper_toUpper (h : letter.isLower) : letter.toUpper.isUpper := by
  have hletter := val_bounds_of_isLower h
  have hupper : 'A'.val ≤ letter.toUpper.val ∧ letter.toUpper.val ≤ 'Z'.val := by
    rw [val_toUpper h]
    simp [UInt32.le_iff_toNat_le] at hletter ⊢
    omega
  exact decide_eq_true hupper

/-- A small letter is the lower case of itself and of its capital only. -/
theorem toLower_eq_iff (h : letter.isLower) :
    c.toLower = letter ↔ c = letter ∨ c = letter.toUpper := by
  have hletter := val_bounds_of_isLower h
  have hupper := val_toUpper h
  by_cases hc : 'A'.val ≤ c.val ∧ c.val ≤ 'Z'.val
  · obtain ⟨hvalid, hlower⟩ : ∃ hvalid, c.toLower = ⟨c.val + ('a'.val - 'A'.val), hvalid⟩ :=
      ⟨_, dif_pos hc⟩
    rw [hlower]
    simp only [Char.ext_iff, hupper]
    grind
  · have hlower : c.toLower = c := dif_neg hc
    rw [hlower, or_iff_left]
    rintro rfl
    exact hc (of_decide_eq_true (isUpper_toUpper h))

end Letter

theorem eqIgnoringCase_iff {word : List Char} (h : ∀ letter ∈ word, letter.isLower) :
    eqIgnoringCase text word ↔ IsCaseOf text word := by
  rw [eqIgnoringCase, beq_iff_eq]
  induction word generalizing text with
  | nil => simp [asciiLower, IsCaseOf]
  | cons letter word ih =>
      obtain ⟨hletter, hword⟩ := List.forall_mem_cons.mp h
      have hlower : letter.toLower = letter := (toLower_eq_iff hletter).mpr (.inl rfl)
      cases text with
      | nil => simp [asciiLower, IsCaseOf]
      | cons c text =>
          rw [IsCaseOf, List.forall₂_cons, ← IsCaseOf, ← ih hword, ← toLower_eq_iff hletter]
          simp [asciiLower, hlower]

theorem IsCaseOf.isAlpha {word : List Char} (h : IsCaseOf text word)
    (hword : ∀ letter ∈ word, letter.isLower) : ∀ c ∈ text, c.isAlpha := by
  induction h with
  | nil => simp
  | @cons c letter _ _ hc _ ih =>
      obtain ⟨hletter, hrest⟩ := List.forall_mem_cons.mp hword
      refine List.forall_mem_cons.mpr ⟨?_, ih hrest⟩
      rcases hc with rfl | rfl
      · exact Bool.or_eq_true_iff.mpr (.inr hletter)
      · exact Bool.or_eq_true_iff.mpr (.inl (isUpper_toUpper hletter))

end Text

/-! ## Search flags -/

namespace SearchTerm

variable {flag : String}

/-- The text of a flag whose column has no equals sign is split behind the column. -/
theorem splitFirst_flag {column : String} (h : '=' ∉ column.toList) (value : String) :
    Text.splitFirst '=' (column ++ "=" ++ value).toList = some (column.toList, value.toList) := by
  rw [String.toList_append, String.toList_append, List.append_assoc]
  exact Text.splitFirst_append value.toList h

theorem eq_of_splitFirst {column value : List Char}
    (h : Text.splitFirst '=' flag.toList = some (column, value)) :
    flag = String.ofList column ++ "=" ++ String.ofList value ∧ '=' ∉ column := by
  obtain ⟨htext, habsent⟩ := Text.splitFirst_eq_some_iff.mp h
  refine ⟨String.toList_inj.mp ?_, habsent⟩
  simp [htext]

theorem ofFlag_eq_ok_iff {term : SearchTerm} : ofFlag flag = .ok term ↔
    term.column ≠ "" ∧ '=' ∉ term.column.toList ∧ flag = term.column ++ "=" ++ term.value := by
  constructor
  · intro h
    rw [ofFlag] at h
    split at h
    case h_1 => cases h
    case h_2 => cases h
    case h_3 column value hcolumn hsplit =>
      obtain ⟨htext, habsent⟩ := eq_of_splitFirst hsplit
      cases h
      refine ⟨fun hempty => hcolumn ?_, by simpa using habsent, htext⟩
      exact String.ofList_eq_empty_iff.mp hempty
  · obtain ⟨column, value⟩ := term
    rintro ⟨hcolumn, habsent, rfl⟩
    rw [ofFlag, splitFirst_flag habsent]
    split
    case h_1 hnone => cases hnone
    case h_2 _ hsplit =>
      rw [Option.some_inj, Prod.mk.injEq] at hsplit
      exact absurd (String.toList_eq_nil_iff.mp hsplit.1) hcolumn
    case h_3 _ _ _ hsplit =>
      rw [Option.some_inj, Prod.mk.injEq] at hsplit
      rw [← hsplit.1, ← hsplit.2, String.ofList_toList, String.ofList_toList]

theorem ofFlag_eq_error_iff {error : FlagError} : ofFlag flag = .error error ↔
    ('=' ∉ flag.toList ∧ error = .noEquals flag) ∨
      ∃ value, flag = "=" ++ value ∧ error = .noColumn flag := by
  constructor
  · intro h
    rw [ofFlag] at h
    split at h
    case h_1 hnone =>
      cases h
      exact .inl ⟨Text.splitFirst_eq_none_iff.mp hnone, rfl⟩
    case h_2 value hsplit =>
      cases h
      exact .inr ⟨String.ofList value, (eq_of_splitFirst hsplit).1, rfl⟩
    case h_3 => cases h
  · rintro (⟨habsent, rfl⟩ | ⟨value, rfl, rfl⟩)
    · rw [ofFlag, Text.splitFirst_eq_none_iff.mpr habsent]
    · rw [ofFlag]
      simp [Text.splitFirst]

end SearchTerm

/-! ## Sort flags -/

/-- The words for a direction in a sort flag. -/
inductive Direction.IsNamedBy : Direction → String → Prop
  | asc {word : String} (h : Text.IsCaseOf word.toList ['a', 's', 'c']) : IsNamedBy .asc word
  | desc {word : String} (h : Text.IsCaseOf word.toList ['d', 'e', 's', 'c']) :
      IsNamedBy .desc word

theorem Direction.IsNamedBy.not_mem {direction : Direction} {word : String}
    (h : direction.IsNamedBy word) : ':' ∉ word.toList := by
  have halpha : ∀ c ∈ word.toList, c.isAlpha := by
    cases h with
    | asc h => exact h.isAlpha (by simp)
    | desc h => exact h.isAlpha (by simp)
  exact fun hmem => absurd (halpha ':' hmem) (by decide)

namespace Sorting

/-- The sorting that a flag asks for: by the column before a direction, or by all of a flag that
names no direction. -/
inductive IsAskedBy : Sorting → String → Prop
  | directed {column word : String} {direction : Direction} (hcolumn : column ≠ "")
      (h : direction.IsNamedBy word) : IsAskedBy ⟨column, direction⟩ (column ++ ":" ++ word)
  | bare {column : String} (hcolumn : column ≠ "")
      (h : ∀ (before word : String) (direction : Direction), direction.IsNamedBy word →
        column ≠ before ++ ":" ++ word) : IsAskedBy ⟨column, .asc⟩ column

variable {flag : String}

theorem splitFlag_of_isNamedBy {direction : Direction} {word : String}
    (h : direction.IsNamedBy word) (column : String) :
    splitFlag (column ++ ":" ++ word) = ⟨column, direction⟩ := by
  have hsplit : Text.splitLast ':' (column ++ ":" ++ word).toList =
      some (column.toList, word.toList) := by
    rw [String.toList_append, String.toList_append, List.append_assoc]
    exact Text.splitLast_append column.toList h.not_mem
  rw [splitFlag, hsplit]
  cases h with
  | asc h => simp [(Text.eqIgnoringCase_iff (by simp)).mpr h]
  | desc h =>
      -- The two words differ in length, so no text is both.
      have hne : ¬Text.eqIgnoringCase word.toList ['a', 's', 'c'] := by
        rw [Text.eqIgnoringCase_iff (by simp)]
        intro hasc
        have hlength := hasc.length_eq.symm.trans h.length_eq
        simp at hlength
      simp [(Text.eqIgnoringCase_iff (by simp)).mpr h, hne]

theorem splitFlag_of_bare (h : ∀ (before word : String) (direction : Direction),
    direction.IsNamedBy word → flag ≠ before ++ ":" ++ word) :
    splitFlag flag = ⟨flag, .asc⟩ := by
  rw [splitFlag]
  split
  case h_2 => rfl
  case h_1 column order hsplit =>
    have htext : flag = String.ofList column ++ ":" ++ String.ofList order := by
      rw [← String.toList_inj, (Text.splitLast_eq_some_iff.mp hsplit).1]
      simp
    have hnone {direction : Direction} : ¬direction.IsNamedBy (String.ofList order) :=
      fun hnamed => h _ _ _ hnamed htext
    have hasc : ¬Text.eqIgnoringCase order ['a', 's', 'c'] := by
      rw [Text.eqIgnoringCase_iff (by simp)]
      exact fun hcase => hnone (.asc (by simpa using hcase))
    have hdesc : ¬Text.eqIgnoringCase order ['d', 'e', 's', 'c'] := by
      rw [Text.eqIgnoringCase_iff (by simp)]
      exact fun hcase => hnone (.desc (by simpa using hcase))
    rw [if_neg hasc, if_neg hdesc]

/-- A flag ends in a direction, or it is bare. -/
theorem exists_isNamedBy_or_bare (flag : String) :
    (∃ (column word : String) (direction : Direction),
      direction.IsNamedBy word ∧ flag = column ++ ":" ++ word) ∨
      ∀ (before word : String) (direction : Direction), direction.IsNamedBy word →
        flag ≠ before ++ ":" ++ word := by
  by_cases h : ∃ (column word : String) (direction : Direction),
      direction.IsNamedBy word ∧ flag = column ++ ":" ++ word
  · exact .inl h
  · exact .inr fun before word direction hnamed htext => h ⟨before, word, direction, hnamed, htext⟩

theorem ofFlag_eq_ok_iff {sorting : Sorting} :
    ofFlag flag = .ok sorting ↔ sorting.IsAskedBy flag := by
  constructor
  · intro h
    simp only [ofFlag] at h
    split at h
    case isTrue => cases h
    case isFalse hcolumn =>
      cases h
      rcases exists_isNamedBy_or_bare flag with ⟨column, word, direction, hnamed, rfl⟩ | hbare
      · rw [splitFlag_of_isNamedBy hnamed] at hcolumn ⊢
        exact .directed hcolumn hnamed
      · rw [splitFlag_of_bare hbare] at hcolumn ⊢
        exact .bare hcolumn hbare
  · intro h
    cases h with
    | directed hcolumn hnamed => simp [ofFlag, splitFlag_of_isNamedBy hnamed, hcolumn]
    | bare hcolumn hbare => simp [ofFlag, splitFlag_of_bare hbare, hcolumn]

theorem ofFlag_eq_error_iff {error : FlagError} : ofFlag flag = .error error ↔
    error = .noColumn flag ∧ (flag = "" ∨ ∃ (word : String) (direction : Direction),
      direction.IsNamedBy word ∧ flag = ":" ++ word) := by
  constructor
  · intro h
    simp only [ofFlag] at h
    split at h
    case isFalse => cases h
    case isTrue hcolumn =>
      cases h
      refine ⟨rfl, ?_⟩
      rcases exists_isNamedBy_or_bare flag with ⟨column, word, direction, hnamed, rfl⟩ | hbare
      · rw [splitFlag_of_isNamedBy hnamed] at hcolumn
        obtain rfl : column = "" := hcolumn
        exact .inr ⟨word, direction, hnamed, by rw [String.empty_append]⟩
      · rw [splitFlag_of_bare hbare] at hcolumn
        exact .inl hcolumn
  · rintro ⟨rfl, rfl | ⟨word, direction, hnamed, rfl⟩⟩
    · rfl
    · have hsplit := splitFlag_of_isNamedBy hnamed ""
      rw [String.empty_append] at hsplit
      simp [ofFlag, hsplit]

theorem IsAskedBy.isActive {sorting : Sorting} (h : sorting.IsAskedBy flag) : sorting.isActive := by
  cases h with
  | directed hcolumn hnamed => cases hnamed <;> simpa [Sorting.isActive] using hcolumn
  | bare hcolumn => simpa [Sorting.isActive] using hcolumn

end Sorting

namespace Query

/-- A search flag is accepted exactly if it is a column and a value around an equals sign, where the
column is not empty and has no equals sign itself, and it gives these two. A sort flag gives the
column and the direction around its last colon, whatever stands in the column, and otherwise all of
it as a column in ascending order; it is refused only if this leaves the column empty. A sorting
that is given is active. -/
theorem flags_decode :
    (∀ (flag : String) (term : SearchTerm), SearchTerm.ofFlag flag = .ok term ↔
        term.column ≠ "" ∧ '=' ∉ term.column.toList ∧
          flag = term.column ++ "=" ++ term.value) ∧
      (∀ (flag : String) (error : FlagError), SearchTerm.ofFlag flag = .error error ↔
        ('=' ∉ flag.toList ∧ error = .noEquals flag) ∨
          ∃ value, flag = "=" ++ value ∧ error = .noColumn flag) ∧
      (∀ (column word : String) (direction : Direction), column ≠ "" →
        direction.IsNamedBy word →
          Sorting.ofFlag (column ++ ":" ++ word) = .ok ⟨column, direction⟩) ∧
      (∀ (flag : String) (sorting : Sorting),
        Sorting.ofFlag flag = .ok sorting ↔ sorting.IsAskedBy flag) ∧
      (∀ (flag : String) (error : FlagError), Sorting.ofFlag flag = .error error ↔
        error = .noColumn flag ∧ (flag = "" ∨ ∃ (word : String) (direction : Direction),
          direction.IsNamedBy word ∧ flag = ":" ++ word)) ∧
      ∀ (flag : String) (sorting : Sorting),
        Sorting.ofFlag flag = .ok sorting → sorting.isActive := by
  refine ⟨fun _ _ => SearchTerm.ofFlag_eq_ok_iff, fun _ _ => SearchTerm.ofFlag_eq_error_iff, ?_,
    fun _ _ => Sorting.ofFlag_eq_ok_iff, fun _ _ => Sorting.ofFlag_eq_error_iff, ?_⟩
  · intro column word direction hcolumn hnamed
    exact Sorting.ofFlag_eq_ok_iff.mpr (.directed hcolumn hnamed)
  · intro flag sorting h
    exact (Sorting.ofFlag_eq_ok_iff.mp h).isActive

/-- A column with a colon and a direction in it is taken as it is. -/
theorem flags_decode_colons :
    "a:asc" ≠ "" ∧ Direction.IsNamedBy .desc "DESC" ∧
      Sorting.ofFlag ("a:asc" ++ ":" ++ "DESC") = .ok ⟨"a:asc", .desc⟩ ∧
      Sorting.isActive ⟨"a:asc", .desc⟩ := by
  have hcolumn : "a:asc" ≠ "" := by decide
  have hnamed : Direction.IsNamedBy .desc "DESC" := .desc (by simp [Text.IsCaseOf])
  have hread := flags_decode.2.2.1 "a:asc" "DESC" .desc hcolumn hnamed
  exact ⟨hcolumn, hnamed, hread, flags_decode.2.2.2.2.2 _ _ hread⟩

end Query

end TableQuery
