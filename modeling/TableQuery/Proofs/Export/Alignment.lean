import Mathlib.Order.Bounds.Basic
import TableQuery.Export.Table
import TableQuery.Proofs.Text.Blank
import TableQuery.Proofs.Text.Width

/-!
# Alignment of tables

A line of a table is given by its texts under the columns, so that header, rule and rows are
lines of one kind. No text is wider than its column, hence a padded text has just the width of
the column, and the part of a line in front of a column has the same width in every line. All
this holds on each terminal that adds widths up at blanks: the gap between columns then keeps
the texts around it apart, whatever characters they begin and end with.
-/

namespace TableQuery

namespace Terminal

/-- Where no other terminal is given, widths add up. -/
theorem addsUp_standard : AddsUp where
  blank text rest := Text.width_append_cons Text.Width.isPlain_blank text rest
  dashes count := Text.width_replicate Text.Width.isPlain_dash count

variable [Terminal]

theorem AddsUp.width_nil (h : AddsUp) : width [] = 0 := h.dashes 0

theorem AddsUp.width_blank (h : AddsUp) (rest : List Char) :
    width (' ' :: rest) = width rest + 1 := by
  have hrest := h.blank [] rest
  rwa [List.nil_append, h.width_nil, Nat.zero_add] at hrest

theorem AddsUp.width_append_blanks (h : AddsUp) (text : List Char) (count : Nat) :
    width (text ++ List.replicate count ' ') = width text + count := by
  induction count generalizing text with
  | zero => rw [List.replicate_zero, List.append_nil, Nat.add_zero]
  | succ count ih =>
      have hblanks : width (List.replicate count ' ') = count := by
        have hnil := ih []
        rwa [List.nil_append, h.width_nil, Nat.zero_add] at hnil
      rw [List.replicate_succ, h.blank, hblanks]

end Terminal

namespace Export

section

variable [Terminal]

/-- The text of a row under a column. -/
def cellText (row : Row) (column : String) : List Char := (row.value column).toText.toList

/-- The texts that a column holds: its name and the cells under it. -/
def contents (rows : List Row) : List (String → List Char) := String.toList :: rows.map cellText

/-- The lines of a table from top to bottom: the header, the rule and the rows. -/
def lines (rows : List Row) (width : String → Nat) : List (String → List Char) :=
  String.toList :: (fun column => List.replicate (width column) '-') :: rows.map cellText

/-- A line whose texts are padded, before its end is trimmed. -/
def paddedLine (width : String → Nat) (text : String → List Char) (columns : List String) :
    List Char :=
  List.intercalate [' ', ' '] (columns.map fun column => pad (width column) (text column))

/-- What stands in a padded line in front of the columns that come after some first ones. -/
def lead (width : String → Nat) (text : String → List Char) (before : List String) : List Char :=
  before.flatMap fun column => pad (width column) (text column) ++ [' ', ' ']

/-- A line keeps to the widths of its columns. -/
structure KeepsWidths (columns : List String) (width : String → Nat)
    (text : String → List Char) : Prop where
  /-- Every text is padded with the blanks that it lacks, and never cut. -/
  whole : ∀ column ∈ columns, ∃ blanks, Terminal.width (text column) + blanks = width column ∧
    pad (width column) (text column) = text column ++ List.replicate blanks ' '
  fills : ∀ column ∈ columns, Terminal.width (pad (width column) (text column)) = width column
  /-- A column starts after the widths of the columns before it and the gaps between them. -/
  starts : ∀ before column after, columns = before ++ column :: after →
    paddedLine width text columns =
        lead width text before ++ paddedLine width text (column :: after) ∧
      ∀ rest, Terminal.width (lead width text before ++ rest) =
        (before.map width).sum + 2 * before.length + Terminal.width rest
  /-- Trimming takes only blanks from the end of the line. -/
  trims : ∃ blanks, paddedLine width text columns =
    Text.trimEnd (paddedLine width text columns) ++ blanks ∧ ∀ c ∈ blanks, Text.isBlank c = true

/-- A text is a table of rows, in columns of some widths. -/
structure Aligns (rows : List Row) (columns : List String) (width : String → Nat)
    (output : List Char) : Prop where
  /-- A column is as wide as its widest text. -/
  widest (column : String) :
    IsGreatest {w | ∃ text ∈ contents rows, Terminal.width (text column) = w} (width column)
  segments : output = (lines rows width).flatMap fun text =>
    Text.trimEnd (paddedLine width text columns) ++ ['\n']
  count : (lines rows width).length = rows.length + 2
  keepsWidths : ∀ text ∈ lines rows width, KeepsWidths columns width text

variable {rows : List Row} {columns before : List String} {width : String → Nat}
  {text : String → List Char}

/-! ## A line -/

theorem tableLine_map (columns : List String) (width : String → Nat) (text : String → List Char) :
    tableLine (columns.map width) (columns.map text) =
      Text.trimEnd (paddedLine width text columns) ++ ['\n'] := by
  rw [tableLine, spread, List.zipWith_map, List.zipWith_self, paddedLine]

theorem paddedLine_append (before : List String) {rest : List String} (h : rest ≠ []) :
    paddedLine width text (before ++ rest) =
      lead width text before ++ paddedLine width text rest := by
  induction before with
  | nil => rfl
  | cons column before ih =>
      have hmap : (before ++ rest).map (fun c => pad (width c) (text c)) ≠ [] := by simp [h]
      rw [paddedLine] at ih
      rw [paddedLine, List.cons_append, List.map_cons, List.intercalate_cons_of_ne_nil hmap, ih]
      simp [lead]

theorem width_pad (hterminal : Terminal.AddsUp) {text : List Char} {width : Nat}
    (h : Terminal.width text ≤ width) : Terminal.width (pad width text) = width := by
  rw [pad, hterminal.width_append_blanks]
  exact Nat.add_sub_cancel' h

theorem width_lead_append (hterminal : Terminal.AddsUp) (rest : List Char)
    (h : ∀ column ∈ before, Terminal.width (text column) ≤ width column) :
    Terminal.width (lead width text before ++ rest) =
      (before.map width).sum + 2 * before.length + Terminal.width rest := by
  induction before with
  | nil => simp [lead]
  | cons column before ih =>
      have hcolumn : Terminal.width (pad (width column) (text column)) = width column :=
        width_pad hterminal (h column List.mem_cons_self)
      have hbefore := ih fun c hc => h c (List.mem_cons_of_mem column hc)
      have hgap : lead width text (column :: before) ++ rest =
          pad (width column) (text column) ++ ' ' :: ' ' :: (lead width text before ++ rest) := by
        simp [lead]
      rw [hgap, hterminal.blank, hterminal.width_blank, hbefore, hcolumn, List.map_cons,
        List.sum_cons, List.length_cons]
      omega

theorem keepsWidths (hterminal : Terminal.AddsUp)
    (h : ∀ column ∈ columns, Terminal.width (text column) ≤ width column) :
    KeepsWidths columns width text where
  whole column hcolumn := ⟨_, Nat.add_sub_cancel' (h column hcolumn), rfl⟩
  fills column hcolumn := width_pad hterminal (h column hcolumn)
  starts before column after hcolumns := by
    subst hcolumns
    refine ⟨paddedLine_append before (List.cons_ne_nil column after), fun rest => ?_⟩
    exact width_lead_append hterminal rest fun c hc => h c (List.mem_append_left _ hc)
  trims :=
    ⟨_, (List.rdropWhile_append_rtakeWhile ..).symm, fun _ => List.mem_rtakeWhile_imp⟩

/-! ## All lines -/

theorem isGreatest_columnWidth (rows : List Row) (column : String) :
    IsGreatest {w | ∃ text ∈ contents rows, Terminal.width (text column) = w}
      (columnWidth rows column) := by
  have hmax : ((contents rows).map fun text => Terminal.width (text column)).max? =
      some (columnWidth rows column) := by
    rw [contents, List.map_cons, List.max?_cons', List.map_map]
    rfl
  obtain ⟨hmem, hle⟩ := List.max?_eq_some_iff.mp hmax
  constructor
  · exact List.mem_map.mp hmem
  · rintro _ ⟨text, htext, rfl⟩
    exact hle _ (List.mem_map_of_mem htext)

theorem width_le_columnWidth (hterminal : Terminal.AddsUp) {column : String}
    (h : text ∈ lines rows (columnWidth rows)) :
    Terminal.width (text column) ≤ columnWidth rows column := by
  have hcontents : ∀ text ∈ contents rows, Terminal.width (text column) ≤ columnWidth rows column :=
    fun text htext => (isGreatest_columnWidth rows column).2 ⟨text, htext, rfl⟩
  rcases List.mem_cons.mp h with rfl | h
  · exact hcontents _ List.mem_cons_self
  rcases List.mem_cons.mp h with rfl | hrow
  · exact (hterminal.dashes _).le
  · exact hcontents text (List.mem_cons_of_mem _ hrow)

theorem table_eq_flatMap (rows : List Row) (h : columns ≠ []) :
    table rows columns = (lines rows (columnWidth rows)).flatMap fun text =>
      Text.trimEnd (paddedLine (columnWidth rows) text columns) ++ ['\n'] := by
  simp only [← tableLine_map, lines, List.flatMap_cons, List.flatMap_map]
  rw [table, if_neg (by simpa using h)]
  dsimp only
  rw [List.map_map, List.append_assoc]
  rfl

/-- On a terminal that adds widths up, a table shows each of its columns at one offset, in every
line. -/
theorem table_aligns (hterminal : Terminal.AddsUp) (rows : List Row) (h : columns ≠ []) :
    Aligns rows columns (columnWidth rows) (table rows columns) where
  widest := isGreatest_columnWidth rows
  segments := table_eq_flatMap rows h
  count := by simp [lines]
  keepsWidths _ htext := keepsWidths hterminal fun _ _ => width_le_columnWidth hterminal htext

end

/-- Two cities, one of them in wide characters; nothing is known of the visits to the other. -/
def cities : List Row :=
  [⟨[("city", .text "東京"), ("visits", .text "9")], by decide⟩,
   ⟨[("city", .text "Rome")], by decide⟩]

theorem table_aligns_cities :
    Terminal.AddsUp ∧ ["city", "visits"] ≠ [] ∧
      Aligns cities ["city", "visits"] (columnWidth cities) (table cities ["city", "visits"]) ∧
      table cities ["city", "visits"] =
        "city  visits\n----  ------\n東京  9\nRome\n".toList :=
  ⟨Terminal.addsUp_standard, by decide, table_aligns Terminal.addsUp_standard cities (by decide),
    by decide +kernel⟩

end Export

end TableQuery
