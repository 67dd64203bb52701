import Mathlib.Data.List.DropRight
import TableQuery.Text.Blank

/-!
# Trimming

Trimming twice is trimming once: what trimming the end leaves is a first part of
the text, so trimming the end cannot bring a blank to the start. A piece of a
text, trimmed, is still found in the trimmed text.
-/

namespace TableQuery.Text

@[simp] theorem trimStart_trimStart (text : List Char) :
    trimStart (trimStart text) = trimStart text :=
  List.dropWhile_idempotent isBlank text

theorem trimEnd_eq_rdropWhile (text : List Char) : trimEnd text = text.rdropWhile isBlank := rfl

/-- A first part of a text that starts with no blank starts with none. -/
theorem trimStart_of_prefix {part text : List Char} (h : part <+: text)
    (htext : trimStart text = text) : trimStart part = part := by
  cases part with
  | nil => rfl
  | cons c part =>
      obtain ⟨rest, rfl⟩ := h
      have hc : ¬isBlank c := by
        intro hblank
        rw [List.cons_append, trimStart_cons_of_blank _ hblank] at htext
        have hsuffix : trimStart (part ++ rest) <:+ part ++ rest := List.dropWhile_suffix isBlank
        have hlength := hsuffix.length_le
        rw [htext, List.length_cons] at hlength
        omega
      exact trimStart_cons_of_not_blank part hc

@[simp] theorem trim_trim (text : List Char) : trim (trim text) = trim text := by
  have hprefix : trim text <+: trimStart text := List.rdropWhile_prefix isBlank (trimStart text)
  have hstart : trimStart (trim text) = trim text :=
    trimStart_of_prefix hprefix (trimStart_trimStart text)
  rw [trim, hstart, trim, trimEnd_eq_rdropWhile, trimEnd_eq_rdropWhile]
  exact List.rdropWhile_idempotent ..

theorem dropWhile_of_forall_not_blank {text : List Char} (h : ∀ c ∈ text, isBlank c = false) :
    text.dropWhile isBlank = text := by
  cases text with
  | nil => rfl
  | cons c text => simp [h c List.mem_cons_self]

theorem trim_of_forall_not_blank {text : List Char} (h : ∀ c ∈ text, isBlank c = false) :
    trim text = text := by
  rw [trim, trimEnd, trimStart, dropWhile_of_forall_not_blank h,
    dropWhile_of_forall_not_blank fun c hc => h c (List.mem_reverse.mp hc), List.reverse_reverse]

/-- Blanks on both sides of a text are trimmed off. -/
theorem trim_append {lead text trail : List Char} (hlead : ∀ c ∈ lead, isBlank c = true)
    (htrail : ∀ c ∈ trail, isBlank c = true) : trim (lead ++ (text ++ trail)) = trim text := by
  have hend (part : List Char) : trimEnd (part ++ trail) = trimEnd part := by
    rw [trimEnd, trimEnd, List.reverse_append,
      List.dropWhile_append_of_pos fun c hc => htrail c (List.mem_reverse.mp hc)]
  rw [trim, trimStart, List.dropWhile_append_of_pos hlead, List.dropWhile_append]
  split
  · next hnone =>
    rw [List.dropWhile_eq_nil_iff.mpr htrail, trim, trimStart, List.isEmpty_iff.mp hnone]
  · rw [hend, trim, trimStart]

/-- Trimming the end takes blanks away only. -/
theorem exists_trimStart_eq (text : List Char) :
    ∃ blanks, trimStart text = trim text ++ blanks ∧ ∀ c ∈ blanks, isBlank c = true := by
  refine ⟨((trimStart text).reverse.takeWhile isBlank).reverse, ?_, ?_⟩
  · rw [trim, trimEnd, ← List.reverse_append, List.takeWhile_append_dropWhile, List.reverse_reverse]
  · intro c hc
    exact List.mem_takeWhile_imp (List.mem_reverse.mp hc)

/-- A text is its trimmed form between blanks. -/
theorem exists_trim_eq (text : List Char) :
    ∃ lead trail, text = lead ++ (trim text ++ trail) ∧ (∀ c ∈ lead, isBlank c = true) ∧
      ∀ c ∈ trail, isBlank c = true := by
  obtain ⟨trail, htrail, hblank⟩ := exists_trimStart_eq text
  refine ⟨text.takeWhile isBlank, trail, ?_, fun c => List.mem_takeWhile_imp, hblank⟩
  rw [← htrail, trimStart, List.takeWhile_append_dropWhile]

/-- What a piece of a list keeps of itself is a piece of what the list keeps. -/
theorem dropWhile_infix_dropWhile {α : Type} (p : α → Bool) {part list : List α}
    (h : part <:+: list) : part.dropWhile p <:+: list.dropWhile p := by
  obtain ⟨before, after, rfl⟩ := h
  rw [List.append_assoc, List.dropWhile_append]
  split
  · rw [List.dropWhile_append]
    split
    · next hnone =>
      rw [List.isEmpty_iff.mp hnone]
      exact List.nil_infix
    · exact (List.prefix_append _ after).isInfix
  · have hpart : part.dropWhile p <:+: part ++ after :=
      (List.dropWhile_suffix p).isInfix.trans (List.prefix_append part after).isInfix
    exact hpart.trans (List.suffix_append _ _).isInfix

theorem trimEnd_infix_trimEnd {part text : List Char} (h : part <:+: text) :
    trimEnd part <:+: trimEnd text :=
  List.reverse_infix.mpr (dropWhile_infix_dropWhile isBlank (List.reverse_infix.mpr h))

theorem trim_infix_trim {part text : List Char} (h : part <:+: text) : trim part <:+: trim text :=
  trimEnd_infix_trimEnd (dropWhile_infix_dropWhile isBlank h)

theorem count_trim {c : Char} (hc : isBlank c = false) (text : List Char) :
    (trim text).count c = text.count c := by
  obtain ⟨lead, trail, htext, hlead, htrail⟩ := exists_trim_eq text
  have hnone {blanks : List Char} (hblanks : ∀ d ∈ blanks, isBlank d = true) :
      blanks.count c = 0 := by
    rw [List.count_eq_zero]
    intro hmem
    rw [hblanks c hmem] at hc
    cases hc
  conv_rhs => rw [htext, List.count_append, List.count_append, hnone hlead, hnone htrail]
  omega

/-- A text is not found where a character that is not blank is met less often. -/
theorem not_trim_infix_trim {c : Char} (hc : isBlank c = false) {part text : List Char}
    (h : text.count c < part.count c) : ¬trim part <:+: trim text := by
  intro hoccurs
  have hle := hoccurs.sublist.count_le c
  rw [count_trim hc, count_trim hc] at hle
  exact absurd hle (not_le.mpr h)

end TableQuery.Text
