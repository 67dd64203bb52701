import Mathlib.Data.List.Forall2
import TableQuery.Export.Basic
import TableQuery.Proofs.Delimited.RoundTrip
import TableQuery.Proofs.Text.Blank

/-!
# What an output shows of rows

Delimited text reads back as the header with the texts of the cells under it, row
by row. In a table the header and every row have a line each, which sets out its
texts in the order of the columns. Neither depends on cells outside of the header.
-/

namespace TableQuery.Export

/-- A line sets out texts from left to right: each one is whole with some blanks behind it, and two
more stand before the next one. Only the end of the line is trimmed. -/
def SetsOut (texts : List (List Char)) (line : List Char) : Prop :=
  ∃ blanks : List Nat, blanks.length = texts.length ∧
    line = Text.trimEnd (List.intercalate [' ', ' ']
      (List.zipWith (fun text count => text ++ List.replicate count ' ') texts blanks)) ++ ['\n']

/-- An output shows the cells of rows under a header, row by row, and nothing of other cells. -/
structure Shows [Terminal] (format : Format) (rows : List Row) (header : List String)
    (output : List Char) : Prop where
  fields : format = .csv → header ≠ [] → Delimited.records ',' output =
    header :: rows.map fun row => header.map fun column => (row.value column).toText
  lines : format = .table → header ≠ [] → ∃ top rule lines, output = top ++ rule ++ lines.flatten ∧
    SetsOut (header.map String.toList) top ∧
    (∃ widths : List Nat, widths.length = header.length ∧
      SetsOut (widths.map (List.replicate · '-')) rule) ∧
    List.Forall₂ (fun (row : Row) line =>
      SetsOut (header.map fun column => (row.value column).toText.toList) line) rows lines
  bare : format = .table → header = [] → output = []
  only (others : List Row) : List.Forall₂ (fun (row other : Row) =>
    ∀ column ∈ header, row.value column = other.value column) rows others →
      render format others header = output

/-! ## Lines of a table -/

theorem setsOut_tableLine [Terminal] (columns : List String) (width : String → Nat)
    (text : String → List Char) :
    SetsOut (columns.map text) (tableLine (columns.map width) (columns.map text)) := by
  refine ⟨columns.map fun column => width column - Terminal.width (text column), by simp, ?_⟩
  rw [tableLine, spread, List.zipWith_map, List.zipWith_self, List.zipWith_map, List.zipWith_self]
  rfl

theorem exists_lines [Terminal] (rows : List Row) {columns : List String} (h : columns ≠ []) :
    ∃ top rule lines, table rows columns = top ++ rule ++ lines.flatten ∧
      SetsOut (columns.map String.toList) top ∧
      (∃ widths : List Nat, widths.length = columns.length ∧
        SetsOut (widths.map (List.replicate · '-')) rule) ∧
      List.Forall₂ (fun (row : Row) line =>
        SetsOut (columns.map fun column => (row.value column).toText.toList) line) rows lines := by
  obtain ⟨widths, hwidths⟩ : ∃ widths, columns.map (columnWidth rows) = widths := ⟨_, rfl⟩
  have hline (text : String → List Char) :
      SetsOut (columns.map text) (tableLine widths (columns.map text)) :=
    hwidths ▸ setsOut_tableLine columns (columnWidth rows) text
  have hrule : SetsOut (widths.map (List.replicate · '-'))
      (tableLine widths (widths.map (List.replicate · '-'))) := by
    have hdashes := hline ((List.replicate · '-') ∘ columnWidth rows)
    rwa [← List.map_map, hwidths] at hdashes
  refine ⟨tableLine widths (columns.map String.toList), _,
    rows.map fun row => tableLine widths (rowTexts columns row), ?_, hline String.toList,
    ⟨widths, by rw [← hwidths, List.length_map], hrule⟩, ?_⟩
  · rw [table, if_neg (by simpa using h), hwidths, ← List.flatMap_def]
  · rw [List.forall₂_map_right_iff, List.forall₂_same]
    exact fun row _ => hline fun column => (row.value column).toText.toList

/-! ## Cells outside of the header -/

variable {columns : List String} {rows others : List Row}

/-- What is computed from the cells under some columns is the same for rows that agree on them. -/
theorem map_congr_of_forall₂ {β : Type} {f : Row → β}
    (hf : ∀ row other : Row, (∀ column ∈ columns, row.value column = other.value column) →
      f row = f other)
    (h : List.Forall₂ (fun (row other : Row) =>
      ∀ column ∈ columns, row.value column = other.value column) rows others) :
    rows.map f = others.map f := by
  induction h with
  | nil => rfl
  | cons hcells _ ih => rw [List.map_cons, List.map_cons, hf _ _ hcells, ih]

theorem csv_congr (h : List.Forall₂ (fun (row other : Row) =>
    ∀ column ∈ columns, row.value column = other.value column) rows others) :
    csv rows columns = csv others columns := by
  rw [csv, csv, map_congr_of_forall₂ ?_ h]
  intro row other hcells
  exact List.map_congr_left fun column hcolumn => by rw [hcells column hcolumn]

variable [Terminal]

theorem columnWidth_congr (h : List.Forall₂ (fun (row other : Row) =>
    ∀ column ∈ columns, row.value column = other.value column) rows others) {column : String}
    (hcolumn : column ∈ columns) : columnWidth rows column = columnWidth others column := by
  rw [columnWidth, columnWidth, map_congr_of_forall₂ ?_ h]
  intro row other hcells
  rw [hcells column hcolumn]

theorem table_congr (h : List.Forall₂ (fun (row other : Row) =>
    ∀ column ∈ columns, row.value column = other.value column) rows others) :
    table rows columns = table others columns := by
  have hwidths : columns.map (columnWidth rows) = columns.map (columnWidth others) :=
    List.map_congr_left fun _ hcolumn => columnWidth_congr h hcolumn
  have hlines (widths : List Nat) :
      rows.flatMap (fun row => tableLine widths (rowTexts columns row)) =
        others.flatMap fun row => tableLine widths (rowTexts columns row) := by
    rw [List.flatMap_def, List.flatMap_def, map_congr_of_forall₂ ?_ h]
    intro row other hcells
    have htexts : rowTexts columns row = rowTexts columns other :=
      List.map_congr_left fun column hcolumn => by rw [hcells column hcolumn]
    rw [htexts]
  simp only [table, hwidths, hlines]

/-! ## Both formats -/

/-- Rows that are written as delimited text or as a table are shown under their header. -/
theorem shows_render {format : Format} (hformat : format = .csv ∨ format = .table)
    (rows : List Row) (header : List String) :
    Shows format rows header (render format rows header) where
  fields hcsv hfilled := by
    have hrecords : ∀ record ∈ header :: rows.map fun row => header.map fun column =>
        (row.value column).toText, record ≠ [] := by
      rw [List.forall_mem_cons]
      refine ⟨hfilled, fun record hrecord => ?_⟩
      obtain ⟨row, -, rfl⟩ := List.mem_map.mp hrecord
      simpa using hfilled
    rw [hcsv]
    exact Delimited.records_write hrecords
  lines htable hfilled := by
    rw [htable]
    exact exists_lines rows hfilled
  bare htable hnone := by
    rw [htable, hnone]
    rfl
  only others hcells := by
    rcases hformat with rfl | rfl
    · exact (csv_congr hcells).symm
    · exact (table_congr hcells).symm

end TableQuery.Export
