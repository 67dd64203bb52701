import TableQuery.Proofs.Cell.Literal
import TableQuery.Proofs.Cell.LooseText

/-!
# The number at the start of a text is its longest first part that is a number

Two ways of reading a text are compared here. `leadingNumber?` drops the blanks in
front and scans as far as it can, whatever stands behind; `interpret` drops the
blanks on both sides and wants the whole text to be a literal. A first part of a
text that is a number as a whole is a literal between blanks. Its literal starts
where the scan starts, so the scan takes it, perhaps with more; and the longest of
these parts is what the scan takes, with the blanks before and behind it.
-/

namespace TableQuery

namespace Number

variable {text : List Char} {n : Number}

/-- A first part of a text that is a number, while no longer one is. -/
structure IsLongest (text part : List Char) (n : Number) : Prop where
  isPrefix : part <+: text
  reads : ofText? part = some n
  longest : ∀ other m, other <+: text → ofText? other = some m → other.length ≤ part.length

theorem IsLongest.unique {part other : List Char} {m : Number} (h : IsLongest text part n)
    (hother : IsLongest text other m) : n = m := by
  have hle := h.longest other m hother.isPrefix hother.reads
  have hge := hother.longest part n h.isPrefix h.reads
  have hsame : part = other :=
    (List.prefix_of_prefix_length_le h.isPrefix hother.isPrefix hge).eq_of_length
      (Nat.le_antisymm hge hle)
  have hreads := h.reads
  rw [hsame, hother.reads] at hreads
  exact (Option.some.inj hreads).symm

theorem takeWhile_isBlank_append {lead literal : List Char}
    (hlead : ∀ c ∈ lead, Text.isBlank c = true) (h : Literal literal n) (rest : List Char) :
    (lead ++ (literal ++ rest)).takeWhile Text.isBlank = lead := by
  obtain ⟨c, others, rfl⟩ := List.exists_cons_of_ne_nil h.ne_nil
  have hc := h.isBlank_eq c List.mem_cons_self
  rw [List.takeWhile_append_of_pos hlead, List.cons_append,
    List.takeWhile_cons_of_neg (by simp [hc]), List.append_nil]

theorem trimStart_append {lead literal : List Char} (hlead : ∀ c ∈ lead, Text.isBlank c = true)
    (h : Literal literal n) (rest : List Char) :
    Text.trimStart (lead ++ (literal ++ rest)) = literal ++ rest := by
  obtain ⟨c, others, rfl⟩ := List.exists_cons_of_ne_nil h.ne_nil
  have hc := h.isBlank_eq c List.mem_cons_self
  rw [Text.trimStart, List.dropWhile_append_of_pos hlead, List.cons_append,
    List.dropWhile_cons_of_neg (by simp [hc])]

/-- A text that is a number is a literal between blanks. -/
theorem exists_literal_of_ofText? (h : ofText? text = some n) :
    ∃ lead literal trail, text = lead ++ (literal ++ trail) ∧ Literal literal n ∧
      (∀ c ∈ lead, Text.isBlank c = true) ∧ ∀ c ∈ trail, Text.isBlank c = true := by
  obtain ⟨lead, trail, hsplit, hlead, htrail⟩ := Text.exists_trim_eq text
  exact ⟨lead, Text.trim text, trail, hsplit, ofText?_eq_some_iff_literal.mp h, hlead, htrail⟩

/-- Blanks that stand in front of a text are among all that do. -/
theorem length_le_takeWhile {trail tail : List Char} (htrail : ∀ c ∈ trail, Text.isBlank c = true)
    (h : trail <+: tail) : trail.length ≤ (tail.takeWhile Text.isBlank).length := by
  obtain ⟨rest, rfl⟩ := h
  rw [List.takeWhile_append_of_pos htrail, List.length_append]
  exact Nat.le_add_right ..

/-- Where the scan takes a literal, no first part that is a number goes beyond the blanks behind. -/
theorem length_le_of_scan {lead literal tail : List Char}
    (hlead : ∀ c ∈ lead, Text.isBlank c = true) (hliteral : Literal literal n)
    (hscan : scan (literal ++ tail) = some (n, tail)) {part : List Char} {m : Number}
    (hpart : part <+: lead ++ (literal ++ tail)) (hreads : ofText? part = some m) :
    part.length ≤ (lead ++ (literal ++ tail.takeWhile Text.isBlank)).length := by
  obtain ⟨lead', core, trail, rfl, hcore, hlead', htrail⟩ := exists_literal_of_ofText? hreads
  obtain ⟨rest, hrest⟩ := hpart
  rw [List.append_assoc, List.append_assoc] at hrest
  -- Both ways to split the text start with the same blanks ...
  obtain rfl : lead' = lead := by
    rw [← takeWhile_isBlank_append hlead' hcore (trail ++ rest), hrest,
      takeWhile_isBlank_append hlead hliteral]
  rw [List.append_right_inj] at hrest
  -- ... so the scan takes `core`, with `more` behind it.
  rw [← hrest] at hscan
  obtain ⟨more, hmore⟩ := hcore.isSuffix_of_scan hscan
  obtain rfl : literal = core ++ more := by
    rw [← hmore, ← List.append_assoc, List.append_left_inj] at hrest
    exact hrest.symm
  simp only [List.length_append]
  cases more with
  | nil =>
      have hle : trail.length ≤ (tail.takeWhile Text.isBlank).length :=
        length_le_takeWhile htrail ⟨rest, hmore.symm⟩
      simp only [List.length_nil]
      omega
  | cons c more =>
      cases trail with
      | nil =>
          simp only [List.length_nil]
          omega
      | cons d trail =>
          -- The literal would go on with a blank.
          have hc := hliteral.isBlank_eq c (by simp)
          rw [(List.cons.inj hmore).1, htrail d List.mem_cons_self] at hc
          cases hc

/-- What the scan takes, with the blanks before and behind it, is the longest first part that is a
number. -/
theorem exists_isLongest {tail : List Char} (h : scan (Text.trimStart text) = some (n, tail)) :
    ∃ part, IsLongest text part n := by
  obtain ⟨literal, hscanned, hliteral⟩ := exists_literal h
  obtain ⟨lead, hlead, rfl⟩ : ∃ lead, (∀ c ∈ lead, Text.isBlank c = true) ∧
      text = lead ++ (literal ++ tail) := by
    refine ⟨text.takeWhile Text.isBlank, fun c => List.mem_takeWhile_imp, ?_⟩
    rw [← hscanned, Text.trimStart, List.takeWhile_append_dropWhile]
  have hblanks : ∀ c ∈ tail.takeWhile Text.isBlank, Text.isBlank c = true :=
    fun c => List.mem_takeWhile_imp
  rw [hscanned] at h
  refine ⟨lead ++ (literal ++ tail.takeWhile Text.isBlank), ?_, ?_,
    fun other m => length_le_of_scan hlead hliteral h⟩
  · rw [List.prefix_append_right_inj, List.prefix_append_right_inj]
    exact List.takeWhile_prefix _
  · rw [ofText?_eq_some_iff_literal, Text.trim_append hlead hblanks,
      Text.trim_of_forall_not_blank hliteral.isBlank_eq]
    exact hliteral

theorem isSome_scan_iff : (scan (Text.trimStart text)).isSome ↔
    ∃ part n, part <+: text ∧ ofText? part = some n := by
  constructor
  · intro h
    obtain ⟨⟨n, tail⟩, hscan⟩ := Option.isSome_iff_exists.mp h
    obtain ⟨part, hpart⟩ := exists_isLongest hscan
    exact ⟨part, n, hpart.isPrefix, hpart.reads⟩
  · rintro ⟨part, m, ⟨rest, rfl⟩, hreads⟩
    obtain ⟨lead, literal, trail, rfl, hliteral, hlead, -⟩ := exists_literal_of_ofText? hreads
    obtain ⟨more, tail, n, -, hscan, -⟩ := hliteral.exists_scan (trail ++ rest)
    rw [List.append_assoc, List.append_assoc, trimStart_append hlead hliteral, hscan]
    rfl

theorem map_fst_scan_eq_some_iff :
    (scan (Text.trimStart text)).map Prod.fst = some n ↔ ∃ part, IsLongest text part n := by
  constructor
  · intro h
    obtain ⟨⟨m, tail⟩, hscan, rfl⟩ := Option.map_eq_some_iff.mp h
    exact exists_isLongest hscan
  · rintro ⟨part, hpart⟩
    have hsome := isSome_scan_iff.mpr ⟨part, n, hpart.isPrefix, hpart.reads⟩
    obtain ⟨⟨m, tail⟩, hscan⟩ := Option.isSome_iff_exists.mp hsome
    obtain ⟨other, hother⟩ := exists_isLongest hscan
    rw [hscan, hpart.unique hother]
    rfl

end Number

namespace Cell

theorem interpret_text_eq_number_iff {s : String} {n : Number} :
    (text s).interpret = number n ↔ Number.ofText? s.toList = some n := by
  rw [interpret]
  cases Number.ofText? s.toList <;> simp

theorem isLongest_toList_iff {s part : String} {n : Number} :
    Number.IsLongest s.toList part.toList n ↔
      part.toList <+: s.toList ∧ (text part).interpret = number n ∧
        ∀ other m, other.toList <+: s.toList → (text other).interpret = number m →
          other.length ≤ part.length := by
  constructor
  · intro h
    refine ⟨h.isPrefix, interpret_text_eq_number_iff.mpr h.reads, fun other m hother hm => ?_⟩
    have hle := h.longest other.toList m hother (interpret_text_eq_number_iff.mp hm)
    rwa [String.length_toList, String.length_toList] at hle
  · rintro ⟨hstart, hreads, hlongest⟩
    refine ⟨hstart, interpret_text_eq_number_iff.mp hreads, fun other m hother hm => ?_⟩
    have hle := hlongest (String.ofList other) m (by rwa [String.toList_ofList])
      (interpret_text_eq_number_iff.mpr (by rwa [String.toList_ofList]))
    rwa [String.length_ofList, ← String.length_toList] at hle

theorem isSome_leadingNumber?_iff {s : String} : (text s).leadingNumber?.isSome ↔
    ∃ part n, part.toList <+: s.toList ∧ (text part).interpret = number n := by
  rw [leadingNumber?, Option.isSome_map, Number.isSome_scan_iff]
  constructor
  · rintro ⟨part, n, hstart, hreads⟩
    refine ⟨String.ofList part, n, ?_, interpret_text_eq_number_iff.mpr ?_⟩
    · rwa [String.toList_ofList]
    · rwa [String.toList_ofList]
  · rintro ⟨part, n, hstart, hreads⟩
    exact ⟨part.toList, n, hstart, interpret_text_eq_number_iff.mp hreads⟩

theorem leadingNumber?_eq_some_iff {s : String} {n : Number} : (text s).leadingNumber? = some n ↔
    ∃ part : String, Number.IsLongest s.toList part.toList n := by
  rw [leadingNumber?, Number.map_fst_scan_eq_some_iff]
  constructor
  · rintro ⟨part, h⟩
    exact ⟨String.ofList part, by rwa [String.toList_ofList]⟩
  · rintro ⟨part, h⟩
    exact ⟨part.toList, h⟩

/-- The readings of a text agree. A text starts with a number exactly if one of its first parts is
a number as a whole, and the number it starts with is that of the longest of them. It is a number as
a whole exactly if it is a literal between blanks; then it starts with this number and equals it. It
equals a number exactly if it is blank, which means zero, or an integer with a radix mark, or a
number as a whole. What is read by the grammar of literals is a number indeed. -/
theorem readings_agree (s : String) :
    ((text s).leadingNumber?.isSome ↔
        ∃ part n, part.toList <+: s.toList ∧ (text part).interpret = number n) ∧
      (∀ n, (text s).leadingNumber? = some n ↔
        ∃ part, part.toList <+: s.toList ∧ (text part).interpret = number n ∧
          ∀ other m, other.toList <+: s.toList → (text other).interpret = number m →
            other.length ≤ part.length) ∧
      (∀ n, (text s).leadingNumber? = some n → n ≠ .nan) ∧
      (∀ n, (text s).interpret = number n ↔ Number.Literal (Text.trim s.toList) n) ∧
      (∀ n, (text s).interpret = number n →
        (text s).leadingNumber? = some n ∧ Number.ofLooseText s.toList = n ∧ n ≠ .nan) ∧
      (Number.ofLooseText s.toList ≠ .nan ↔
        Text.trim s.toList = [] ∨ Number.IsRadixLiteral (Text.trim s.toList) ∨
          ∃ n, (text s).interpret = number n) ∧
      (Text.trim s.toList = [] → Number.ofLooseText s.toList = .zero) := by
  have hreads (n : Number) : (text s).interpret = number n ↔ Number.ofText? s.toList = some n :=
    interpret_text_eq_number_iff
  refine ⟨isSome_leadingNumber?_iff, fun n => ?_, fun n => leadingNumber?_ne_nan, fun n => ?_,
    fun n h => ?_, ?_, Number.ofLooseText_of_trim_eq_nil⟩
  · rw [leadingNumber?_eq_some_iff]
    simp only [isLongest_toList_iff]
  · rw [hreads, Number.ofText?_eq_some_iff_literal]
  · have hleading : (text s).leadingNumber? = some n := by
      obtain ⟨blanks, hscan⟩ := Number.exists_scan_trimStart ((hreads n).mp h)
      rw [leadingNumber?, hscan]
      rfl
    exact ⟨hleading, Number.ofLooseText_eq ((hreads n).mp h), leadingNumber?_ne_nan hleading⟩
  · simp only [hreads]
    exact Number.ofLooseText_ne_nan_iff

/-- An exponent without digits is left behind; blanks around a literal change nothing in any of the
three readings; blank text equals zero. -/
theorem readings_agree_unfinished_exponent :
    (" 1".toList <+: " 1e".toList ∧ (text " 1").interpret = number (.ofNat 1) ∧
        (text " 1e").leadingNumber?.isSome) ∧
      ((text " -.5e1 ").interpret = number (.ofInt (-5)) ∧
        (text " -.5e1 ").leadingNumber? = some (.ofInt (-5)) ∧
        Number.ofLooseText " -.5e1 ".toList = .ofInt (-5)) ∧
      Text.trim " \t".toList = [] ∧ Number.ofLooseText " \t".toList = .zero := by
  have hpart : " 1".toList <+: " 1e".toList := ⟨['e'], rfl⟩
  have hone : (text " 1").interpret = number (.ofNat 1) := by decide +kernel
  have hfive : (text " -.5e1 ").interpret = number (.ofInt (-5)) := by decide +kernel
  have hblank : Text.trim " \t".toList = [] := by decide
  obtain ⟨-, -, -, -, hagree, -⟩ := readings_agree " -.5e1 "
  obtain ⟨hleading, hequal, -⟩ := hagree _ hfive
  exact ⟨⟨hpart, hone, (readings_agree " 1e").1.mpr ⟨_, _, hpart, hone⟩⟩,
    ⟨hfive, hleading, hequal⟩, hblank, (readings_agree " \t").2.2.2.2.2.2 hblank⟩

end Cell

end TableQuery
