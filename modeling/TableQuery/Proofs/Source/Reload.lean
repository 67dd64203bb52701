import Mathlib.Data.List.Forall2
import TableQuery.Export.Basic
import TableQuery.Proofs.Delimited.RoundTrip
import TableQuery.Proofs.OrderedMap
import TableQuery.Source.Delimited

/-!
# Exported tables load again

Rows written as delimited text load as one table with a row for every exported
row. The loader skips records with a single empty field, so this is stated for
two columns or more; distinct column names keep cells from replacing each other.
Cells come back as the texts that they are shown as. Under a single column, the
rows that come back are those with a text there.
-/

namespace TableQuery

namespace Row

/-- A row of texts under distinct columns holds them in the order of the columns. -/
theorem entries_ofTexts_map (f : String → String) {columns : List String} (h : columns.Nodup) :
    (ofTexts columns (columns.map f)).entries = columns.map fun c => (c, .text (f c)) := by
  have hlist : ofTexts columns (columns.map f) =
      OrderedMap.ofList (columns.map fun c => (c, .text (f c))) := by
    rw [ofTexts, ← List.map_prod_left_eq_zip, List.foldl_map, OrderedMap.ofList, List.foldl_map]
  have hnames : ((columns.map fun c => (c, Cell.text (f c))).map Prod.fst).Nodup := by
    simpa [Function.comp_def] using h
  rw [hlist, OrderedMap.entries_ofList hnames]

theorem names_ofTexts_map (f : String → String) {columns : List String} (h : columns.Nodup) :
    (ofTexts columns (columns.map f)).names = columns := by
  rw [OrderedMap.names, entries_ofTexts_map f h]
  simp [Function.comp_def]

theorem get?_ofTexts_map (f : String → String) {columns : List String} (h : columns.Nodup)
    {column : String} (hmem : column ∈ columns) :
    (ofTexts columns (columns.map f)).get? column = some (.text (f column)) := by
  rw [OrderedMap.get?, entries_ofTexts_map f h,
    findEntry_map (fun c => Cell.text (f c)), if_pos hmem]

end Row

namespace Source

theorem entries_single (name : String) (rows : List Row) :
    (single name rows).entries = [(name, rows)] := rfl

/-- Records of two fields or more are no empty lines. -/
theorem filter_not_isBlankRecord {records : List (List String)}
    (h : ∀ record ∈ records, 2 ≤ record.length) : records.filter (!isBlankRecord ·) = records := by
  rw [List.filter_eq_self]
  intro record hmem
  have hlength := h record hmem
  have hne : record ≠ [""] := by
    rintro rfl
    simp at hlength
  simp [isBlankRecord, hne]

/-- The records of exported rows, read back from their text. -/
theorem records_csv (rows : List Row) {columns : List String} (h : columns ≠ []) :
    Delimited.records ',' (Delimited.dropMark (Delimited.dropMark (Export.csv rows columns))) =
      columns :: rows.map fun row => columns.map fun column => (row.value column).toText := by
  have hfilled : ∀ record ∈ columns :: rows.map fun row => columns.map fun column =>
      (row.value column).toText, record ≠ [] := by
    intro record hmem
    rcases List.mem_cons.mp hmem with rfl | hmem
    · exact h
    · obtain ⟨row, -, rfl⟩ := List.mem_map.mp hmem
      simpa using h
  rw [Export.csv, Delimited.dropMark_write hfilled, Delimited.dropMark_write hfilled,
    Delimited.records_write hfilled]

/-- The text that rows are exported as loads as one table: a row for every exported row, with the
exported columns, and under each the text of the exported cell. -/
theorem ofDelimited_csv (name : String) (rows : List Row) (columns : List String)
    (hcount : 2 ≤ columns.length) (hdistinct : columns.Nodup) :
    ∃ loaded, (ofDelimited name ',' (String.ofList (Export.csv rows columns))).entries =
        [(name, loaded)] ∧
      List.Forall₂ (fun row record => record.names = columns ∧ ∀ column ∈ columns,
        record.get? column = some (.text (row.value column).toText)) rows loaded := by
  have hfilled : columns ≠ [] := by
    rintro rfl
    simp at hcount
  have hlengths : ∀ record ∈ rows.map fun row => columns.map fun column =>
      (row.value column).toText, 2 ≤ record.length := by
    intro record hmem
    obtain ⟨row, -, rfl⟩ := List.mem_map.mp hmem
    simpa using hcount
  refine ⟨rows.map fun row => Row.ofTexts columns (columns.map fun c => (row.value c).toText),
    ?_, ?_⟩
  · rw [ofDelimited, String.toList_ofList, records_csv rows hfilled, entries_single,
      rowsOfRecords, filter_not_isBlankRecord hlengths, List.map_map]
    rfl
  · rw [List.forall₂_map_right_iff, List.forall₂_same]
    intro row _
    exact ⟨Row.names_ofTexts_map _ hdistinct,
      fun column hmem => Row.get?_ofTexts_map _ hdistinct hmem⟩

/-- A byte order mark, quotes, commas and line ends come back, and so does an absent cell. -/
theorem ofDelimited_csv_marks :
    2 ≤ ["\ufeffa", "b"].length ∧ ["\ufeffa", "b"].Nodup ∧
      ∃ loaded, (ofDelimited "t" ',' (String.ofList (Export.csv
          [.ofList [("b", .text "\"x\",\r\n")], .empty] ["\ufeffa", "b"]))).entries =
          [("t", loaded)] ∧
        List.Forall₂ (fun (row record : Row) => record.names = ["\ufeffa", "b"] ∧
          ∀ column ∈ ["\ufeffa", "b"], record.get? column = some (.text (row.value column).toText))
          [.ofList [("b", .text "\"x\",\r\n")], .empty] loaded := by
  have hdistinct : ["\ufeffa", "b"].Nodup := by decide
  exact ⟨by decide, hdistinct, ofDelimited_csv _ _ _ (by decide) hdistinct⟩

/-! ## A single column -/

/-- A record of cells stands for an empty line only if there is one column, with no text in it. -/
theorem isBlankRecord_map_iff (f : String → String) (columns : List String) :
    isBlankRecord (columns.map f) = true ↔ ∃ column, columns = [column] ∧ f column = "" := by
  rw [isBlankRecord, beq_iff_eq]
  cases columns with
  | nil => simp
  | cons column rest => cases rest <;> simp

theorem rowsOfRecords_map (columns : List String) (f : Row → List String) (rows : List Row) :
    rowsOfRecords (columns :: rows.map f) =
      (rows.filter fun row => !isBlankRecord (f row)).map fun row => Row.ofTexts columns (f row) := by
  rw [rowsOfRecords, List.filter_map, List.map_map]
  rfl

/-- Exported rows come back in order and with their cells, except for those that a single column
shows without text; so their number is kept exactly if there are none of these. -/
theorem ofDelimited_csv_length_iff (name : String) (rows : List Row) {columns : List String}
    (hfilled : columns ≠ []) (hdistinct : columns.Nodup) :
    ∃ loaded, (ofDelimited name ',' (String.ofList (Export.csv rows columns))).entries =
        [(name, loaded)] ∧
      List.Forall₂ (fun row record => record.names = columns ∧ ∀ column ∈ columns,
          record.get? column = some (.text (row.value column).toText))
        (rows.filter fun row => !isBlankRecord (columns.map fun c => (row.value c).toText)) loaded ∧
      (loaded.length = rows.length ↔
        ∀ column, columns = [column] → ∀ row ∈ rows, (row.value column).toText ≠ "") := by
  refine ⟨(rows.filter fun row => !isBlankRecord (columns.map fun c => (row.value c).toText)).map
    fun row => Row.ofTexts columns (columns.map fun c => (row.value c).toText), ?_, ?_, ?_⟩
  · rw [ofDelimited, String.toList_ofList, records_csv rows hfilled, entries_single,
      rowsOfRecords_map]
  · rw [List.forall₂_map_right_iff, List.forall₂_same]
    intro row _
    exact ⟨Row.names_ofTexts_map _ hdistinct,
      fun column hmem => Row.get?_ofTexts_map _ hdistinct hmem⟩
  · rw [List.length_map, List.length_filter_eq_length_iff]
    constructor
    · intro h column hcolumn row hrow htext
      have hblank := (isBlankRecord_map_iff (fun c => (row.value c).toText) columns).mpr
        ⟨column, hcolumn, htext⟩
      simpa [hblank] using h row hrow
    · intro h row hrow
      rw [Bool.not_eq_true', ← Bool.not_eq_true, isBlankRecord_map_iff]
      rintro ⟨column, hcolumn, htext⟩
      exact h column hcolumn row hrow htext

/-- Rows under one column, all of them with a text there. -/
theorem ofDelimited_csv_length_one_column :
    ["a"] ≠ [] ∧ ["a"].Nodup ∧
      ∃ loaded, (ofDelimited "t" ',' (String.ofList (Export.csv
          [.ofList [("a", .text "x")], .ofList [("a", .text " ")]] ["a"]))).entries =
          [("t", loaded)] ∧ loaded.length = 2 := by
  have hfilled : ["a"] ≠ [] := by simp
  have hdistinct : ["a"].Nodup := by decide
  obtain ⟨loaded, hentries, -, hlength⟩ := ofDelimited_csv_length_iff "t"
    [.ofList [("a", .text "x")], .ofList [("a", .text " ")]] hfilled hdistinct
  refine ⟨hfilled, hdistinct, loaded, hentries, hlength.mpr ?_⟩
  rintro column hcolumn
  cases hcolumn
  decide

/-- A row with nothing but an empty text is written as a line of its own, but is not loaded. -/
theorem ofDelimited_csv_lone_empty_cell :
    Export.csv [.ofList [("a", .text "")]] ["a"] = ['"', 'a', '"', '\n', '"', '"', '\n'] ∧
      (ofDelimited "t" ',' (String.ofList (Export.csv [.ofList [("a", .text "")]] ["a"]))).entries =
        [("t", [])] := by
  refine ⟨by decide, ?_⟩
  rw [ofDelimited, String.toList_ofList, records_csv _ (by simp)]
  rfl

end Source

end TableQuery
