import TableQuery.Command.Basic
import TableQuery.Proofs.Export.Shown
import TableQuery.Proofs.Json.Decode
import TableQuery.Proofs.OrderedMap
import TableQuery.Proofs.Query.Denotation

/-!
# The header of a result

The rows that a query finds are shown under one header: the columns of the row
that comes first, or those of the first row of the table if that row has none.
What later rows hold in other columns is not shown. All is shown, whatever the
query, if every row of the table has a place for all that any of its rows holds;
the rows of a result are rows of the table, so the first one then has it too.
-/

namespace TableQuery

namespace Row

/-- A cell that is not empty stands under a column of its row. -/
theorem mem_names_of_value_ne_null {row : Row} {column : String} (h : row.value column ≠ .null) :
    column ∈ row.names := by
  by_contra habsent
  rw [value, OrderedMap.get?_eq_none_iff.mpr habsent] at h
  exact h rfl

end Row

namespace Query

theorem mem_of_mem_run {q : Query} {rows : List Row} {row : Row} (h : row ∈ q.run rows) :
    row ∈ rows := by
  rw [run, filtered_searched_eq] at h
  exact List.mem_of_mem_filter ((q.sorted_perm _).mem_iff.mp h)

end Query

namespace Command

/-- The header is that of the first row found, or of the first row of the table if that one has none. -/
theorem header_eq_or (table found : List Row) :
    Row.columns found ≠ [] ∧ header table found = Row.columns found ∨
      Row.columns found = [] ∧ header table found = Row.columns table := by
  rw [header]
  split
  · next hnone => exact .inr ⟨List.isEmpty_iff.mp hnone, rfl⟩
  · next hsome => exact .inl ⟨fun hnone => hsome (List.isEmpty_iff.mpr hnone), rfl⟩

/-- The header has a column for all that a row found holds, if every row of the table has. -/
theorem mem_header {query : Query} {table : List Row}
    (h : ∀ row ∈ table, ∀ other ∈ table, ∀ column, row.value column ≠ .null →
      column ∈ other.names) {row : Row} (hrow : row ∈ query.run table) {column : String}
    (hcell : row.value column ≠ .null) : column ∈ header table (query.run table) := by
  have hmem : ∀ r ∈ query.run table, r ∈ table := fun _ => Query.mem_of_mem_run
  cases hfound : query.run table with
  | nil => simp [hfound] at hrow
  | cons first others =>
      have hfirst : column ∈ Row.columns (first :: others) :=
        h row (hmem row hrow) first (hmem first (by simp [hfound])) column hcell
      rcases header_eq_or table (first :: others) with ⟨-, heq⟩ | ⟨hnone, -⟩
      · rwa [heq]
      · rw [hnone] at hfirst
        cases hfirst

section

variable [Terminal] {files : Files} {request : QueryRequest} {output : List Char}

/-- A query command that gives an output has read a query and a table, and shows what is found. -/
theorem run_query_eq_ok (h : run files (.query request) = .ok output) :
    ∃ query table, request.query files = .ok query ∧
      loadTable files request.file request.table = .ok table ∧
      output = Export.render request.format (query.run table) (header table (query.run table)) := by
  rw [run, Json.Decoder.bind_eq_ok] at h
  obtain ⟨query, hquery, h⟩ := h
  rw [Json.Decoder.bind_eq_ok] at h
  obtain ⟨table, htable, h⟩ := h
  exact ⟨query, table, hquery, htable, (Except.ok.inj h).symm⟩

/-- As delimited text or as a table, a query command shows the rows found under one header, and
nothing else of them. The header has the columns of the first row found, or those of the first row
of the table if nothing is found or the row found has no columns. So nothing is dropped exactly if
there is no cell outside of these columns, as is the case for every query if each row of the table
has all columns in which a row of the table has a cell. -/
theorem run_query_shows (hformat : request.format = .csv ∨ request.format = .table)
    (h : run files (.query request) = .ok output) :
    ∃ query table columns, request.query files = .ok query ∧
      loadTable files request.file request.table = .ok table ∧
      header table (query.run table) = columns ∧
      (Row.columns (query.run table) ≠ [] ∧ columns = Row.columns (query.run table) ∨
        Row.columns (query.run table) = [] ∧ columns = Row.columns table) ∧
      Export.Shows request.format (query.run table) columns output ∧
      ((∀ row ∈ table, ∀ other ∈ table, ∀ column, row.value column ≠ .null →
          column ∈ other.names) →
        ∀ row ∈ query.run table, ∀ column, row.value column ≠ .null → column ∈ columns) := by
  obtain ⟨query, table, hquery, htable, rfl⟩ := run_query_eq_ok h
  exact ⟨query, table, header table (query.run table), hquery, htable, rfl, header_eq_or _ _,
    Export.shows_render hformat _ _, fun hfull _ hrow _ hcell => mem_header hfull hrow hcell⟩

end

/-- Two rows with both columns are shown as a table, without blanks at the end of the last line. -/
theorem run_query_shows_full_rows :
    (Format.table = .csv ∨ Format.table = .table) ∧
      run (fun _ => some (.bytes "a,b\n1,2\n3,\n".toUTF8))
          (.query ⟨"t.csv", none, .none, [⟨"b", " "⟩], none, .table⟩) =
        .ok "a  b\n-  -\n1  2\n3\n".toList ∧
      ∃ (query : Query) (table : List Row) (columns : List String),
        loadTable (fun _ => some (.bytes "a,b\n1,2\n3,\n".toUTF8)) "t.csv" none = .ok table ∧
        Export.Shows .table (query.run table) columns "a  b\n-  -\n1  2\n3\n".toList ∧
        ∀ row ∈ query.run table, ∀ column, row.value column ≠ .null → column ∈ columns := by
  have hformat : Format.table = .csv ∨ Format.table = .table := .inr rfl
  have hrun : run (fun _ => some (.bytes "a,b\n1,2\n3,\n".toUTF8))
      (.query ⟨"t.csv", none, .none, [⟨"b", " "⟩], none, .table⟩) =
        .ok "a  b\n-  -\n1  2\n3\n".toList := by rfl
  have hload : loadTable (fun _ => some (.bytes "a,b\n1,2\n3,\n".toUTF8)) "t.csv" none =
      .ok [.ofList [("a", .text "1"), ("b", .text "2")],
        .ofList [("a", .text "3"), ("b", .text "")]] := by rfl
  obtain ⟨query, table, columns, -, htable, -, -, hshows, hfull⟩ := run_query_shows hformat hrun
  refine ⟨hformat, hrun, query, table, columns, htable, hshows, hfull ?_⟩
  rw [hload] at htable
  obtain rfl := Except.ok.inj htable
  intro row hrow other hother column hcell
  have hnames : other.names = row.names := by
    simp only [List.mem_cons, List.not_mem_nil, or_false] at hrow hother
    rcases hrow with rfl | rfl <;> rcases hother with rfl | rfl <;> rfl
  rw [hnames]
  exact Row.mem_names_of_value_ne_null hcell

/-- A second row that is longer than the first loses its last cell. -/
theorem run_query_shorter_first_row :
    loadTable (fun _ => some (.bytes "a,b\n1\n2,3\n".toUTF8)) "t.csv" none =
        .ok [.ofList [("a", .text "1")], .ofList [("a", .text "2"), ("b", .text "3")]] ∧
      Query.run {} [.ofList [("a", .text "1")], .ofList [("a", .text "2"), ("b", .text "3")]] =
        [.ofList [("a", .text "1")], .ofList [("a", .text "2"), ("b", .text "3")]] ∧
      Row.value (.ofList [("a", .text "2"), ("b", .text "3")]) "b" = .text "3" ∧
      "b" ∉ header [.ofList [("a", .text "1")], .ofList [("a", .text "2"), ("b", .text "3")]]
        [.ofList [("a", .text "1")], .ofList [("a", .text "2"), ("b", .text "3")]] ∧
      run (fun _ => some (.bytes "a,b\n1\n2,3\n".toUTF8))
          (.query ⟨"t.csv", none, .none, [], none, .csv⟩) =
        .ok "\"a\"\n\"1\"\n\"2\"\n".toList :=
  ⟨rfl, rfl, rfl, by decide, rfl⟩

end Command

end TableQuery
