import Mathlib.Data.List.Forall2
import TableQuery.Proofs.Source.ColumnNames

/-!
# What the rows of a sheet keep

A row should hold the content of every cell of its line that is not empty. Days
and durations have a content too, their serial number, but they are left out; so
a sheet keeps everything exactly if no line below the header holds one. All other
kinds of cells are kept, whatever the lines look like.
-/

namespace TableQuery

namespace SheetCell

/-- The content of a cell: its number, or else its text. -/
def content? : SheetCell → Option Cell
  | .empty => none
  | .number n | .serial n => some (.number n)
  | .text s | .error s | .time s => some (.text s)
  | .bool b => some (.text (ofBool b))

/-- Whether a cell holds a day or a duration. -/
def isSerial : SheetCell → Bool
  | .serial _ => true
  | _ => false

theorem content?_eq_none_iff {cell : SheetCell} : cell.content? = none ↔ cell = .empty := by
  cases cell <;> simp [content?]

/-- A row takes the content of a cell, except for days and durations. -/
theorem toCell?_eq (cell : SheetCell) :
    cell.toCell? = if cell.isSerial then none else cell.content? := by
  cases cell <;> rfl

theorem toCell?_of_isSerial {cell : SheetCell} (h : cell.isSerial) : cell.toCell? = none := by
  rw [toCell?_eq, if_pos h]

theorem toCell?_of_not_isSerial {cell : SheetCell} (h : cell.isSerial = false) :
    cell.toCell? = cell.content? := by
  rw [toCell?_eq, h]
  rfl

theorem exists_content?_of_isSerial {cell : SheetCell} (h : cell.isSerial) :
    ∃ value, cell.content? = some value := by
  cases cell with
  | serial n => exact ⟨.number n, rfl⟩
  | _ => cases h

end SheetCell

namespace Grid

/-- Whether any cell of a line is not empty. -/
def hasContent (line : List SheetCell) : Bool := line.any (· ≠ .empty)

theorem length_nameColumns (before headers : List String) :
    (nameColumns before headers).length = headers.length := by
  induction headers generalizing before with
  | nil => rfl
  | cons base rest ih => rw [nameColumns, List.length_cons, ih, List.length_cons]

theorem length_columnNames (header : List SheetCell) :
    (columnNames header).length = header.length := by
  rw [columnNames, length_nameColumns, List.length_map]

/-! ## One line -/

/-- A row takes its cells from the content of its line, in the same order. -/
theorem pairs_toCell?_sublist (columns : List String) (line : List SheetCell) :
    (pairs SheetCell.toCell? columns line).Sublist (pairs SheetCell.content? columns line) := by
  induction line generalizing columns with
  | nil => simp
  | cons cell line ih =>
      cases columns with
      | nil => exact List.nil_sublist _
      | cons column columns =>
          cases hserial : cell.isSerial with
          | false =>
              have htaken := SheetCell.toCell?_of_not_isSerial hserial
              rw [pairs_cons, pairs_cons, htaken]
              exact (ih columns).append_left _
          | true =>
              rw [pairs_cons_of_none (SheetCell.toCell?_of_isSerial hserial), pairs_cons]
              exact (ih columns).trans (List.sublist_append_right ..)

/-- A line gives its row all its content exactly if it holds no day and no duration. -/
theorem pairs_toCell?_eq_iff {columns : List String} {line : List SheetCell}
    (h : line.length ≤ columns.length) :
    pairs SheetCell.toCell? columns line = pairs SheetCell.content? columns line ↔
      ∀ cell ∈ line, cell.isSerial = false := by
  induction line generalizing columns with
  | nil => simp
  | cons cell line ih =>
      cases columns with
      | nil => simp at h
      | cons column columns =>
          have hlength : line.length ≤ columns.length := by simpa using h
          rw [List.forall_mem_cons, ← ih hlength]
          cases hserial : cell.isSerial with
          | false =>
              have htaken := SheetCell.toCell?_of_not_isSerial hserial
              rw [pairs_cons, pairs_cons, htaken, List.append_cancel_left_eq]
              simp
          | true =>
              -- The cell is left out, so the row comes out shorter than the content.
              obtain ⟨value, hcontent⟩ := SheetCell.exists_content?_of_isSerial hserial
              rw [pairs_cons_of_none (SheetCell.toCell?_of_isSerial hserial),
                pairs_cons_of_some hcontent]
              have hle := (pairs_toCell?_sublist columns line).length_le
              constructor
              · intro heq
                rw [heq, List.length_cons] at hle
                omega
              · rintro ⟨hfalse, -⟩
                cases hfalse

theorem pairs_content?_eq_nil_iff {columns : List String} {line : List SheetCell}
    (h : line.length ≤ columns.length) :
    pairs SheetCell.content? columns line = [] ↔ hasContent line = false := by
  induction line generalizing columns with
  | nil => simp [hasContent]
  | cons cell line ih =>
      cases columns with
      | nil => simp at h
      | cons column columns =>
          have hlength : line.length ≤ columns.length := by simpa using h
          have hrest := ih hlength
          have hcons : hasContent (cell :: line) = (decide (cell ≠ .empty) || hasContent line) :=
            List.any_cons
          rw [hcons]
          cases hcontent : cell.content? with
          | none =>
              rw [pairs_cons_of_none hcontent, hrest, SheetCell.content?_eq_none_iff.mp hcontent]
              simp
          | some value =>
              have hfilled : cell ≠ .empty := by
                rintro rfl
                cases hcontent
              rw [pairs_cons_of_some hcontent]
              simp [hfilled]

theorem pairs_toCell?_eq_nil {columns : List String} {line : List SheetCell}
    (h : line.length ≤ columns.length) (hline : hasContent line = false) :
    pairs SheetCell.toCell? columns line = [] := by
  have hkept := pairs_toCell?_sublist columns line
  rwa [(pairs_content?_eq_nil_iff h).mpr hline, List.sublist_nil] at hkept

/-! ## All lines -/

theorem isEmpty_toRow {columns : List String} (h : columns.Nodup) (line : List SheetCell) :
    (toRow columns line).isEmpty = (pairs SheetCell.toCell? columns line).isEmpty := by
  rw [OrderedMap.isEmpty, entries_toRow h]

/-- A line without content gives no row. -/
theorem isEmpty_toRow_of_not_hasContent {columns : List String} (h : columns.Nodup)
    {line : List SheetCell} (hlength : line.length ≤ columns.length)
    (hline : hasContent line = false) : (toRow columns line).isEmpty = true := by
  rw [isEmpty_toRow h, pairs_toCell?_eq_nil hlength hline]
  rfl

/-- If only chosen entries have a chosen image, the chosen entries and images go together exactly if
every chosen entry has a chosen image that fits it. -/
theorem forall₂_filter_map_iff {α β : Type} {R : α → β → Prop} {image : α → β} {p : α → Bool}
    {q : β → Bool} {l : List α} (h : ∀ a ∈ l, q (image a) → p a) :
    List.Forall₂ R (l.filter p) ((l.map image).filter q) ↔
      ∀ a ∈ l, p a → q (image a) ∧ R a (image a) := by
  induction l with
  | nil => simp
  | cons a l ih =>
      rw [List.forall_mem_cons] at h
      rw [List.forall_mem_cons, ← ih h.2, List.map_cons]
      cases hp : p a with
      | false =>
          have hq : ¬q (image a) := fun hq => by simp [h.1 hq] at hp
          rw [List.filter_cons_of_neg (by simp [hp]), List.filter_cons_of_neg hq]
          simp
      | true =>
          rw [List.filter_cons_of_pos hp]
          cases hq : q (image a) with
          | true =>
              rw [List.filter_cons_of_pos hq, List.forall₂_cons]
              simp
          | false =>
              -- The images that are left are too few for the entries.
              rw [List.filter_cons_of_neg (by simp [hq])]
              have hle : ((l.map image).filter q).length ≤ (l.filter p).length := by
                rw [List.filter_map, List.length_map, ← List.countP_eq_length_filter,
                  ← List.countP_eq_length_filter]
                exact List.countP_mono_left h.2
              constructor
              · intro hall
                have hlength := hall.length_eq
                rw [List.length_cons] at hlength
                omega
              · rintro ⟨hhead, -⟩
                cases (hhead rfl).1

theorem forall₂_entries_toRow_iff {columns : List String} (h : columns.Nodup)
    {lines : List (List SheetCell)} (hwidth : ∀ line ∈ lines, line.length ≤ columns.length) :
    List.Forall₂ (fun line (row : Row) => row.entries = pairs SheetCell.content? columns line)
        (lines.filter hasContent) ((lines.map (toRow columns)).filter (!·.isEmpty)) ↔
      ∀ line ∈ lines, ∀ cell ∈ line, cell.isSerial = false := by
  refine (forall₂_filter_map_iff fun line hmem hrow => ?_).trans
    (forall₂_congr fun line hmem => ?_)
  · by_contra hline
    rw [Bool.not_eq_true] at hline
    simp [isEmpty_toRow_of_not_hasContent h (hwidth line hmem) hline] at hrow
  have hnil := pairs_content?_eq_nil_iff (hwidth line hmem)
  rw [← pairs_toCell?_eq_iff (hwidth line hmem), isEmpty_toRow h, entries_toRow h]
  constructor
  · intro hrow
    cases hcontent : hasContent line with
    | true => exact (hrow hcontent).2
    | false => rw [pairs_toCell?_eq_nil (hwidth line hmem) hcontent, hnil.mpr hcontent]
  · intro heq hcontent
    have hfilled : pairs SheetCell.content? columns line ≠ [] := by
      intro hnone
      rw [hnil.mp hnone] at hcontent
      cases hcontent
    exact ⟨by simpa [heq] using hfilled, heq⟩

/-- Under distinct column names, the lines with content and the rows go together one by one, and
each row holds what its line holds, exactly if no line holds a day or a duration. -/
theorem rows_keep_content_iff {header : List SheetCell} {lines : List (List SheetCell)}
    (hdistinct : (columnNames header).Nodup)
    (hwidth : ∀ line ∈ lines, line.length ≤ header.length) :
    List.Forall₂
        (fun line (row : Row) => row.entries = pairs SheetCell.content? (columnNames header) line)
        (lines.filter hasContent) (rows (header :: lines)) ↔
      ∀ line ∈ lines, ∀ cell ∈ line, cell.isSerial = false := by
  rw [← length_columnNames header] at hwidth
  exact forall₂_entries_toRow_iff hdistinct hwidth

/-- Equal and empty headers, truth values and errors are no obstacle; the empty line gives no row. -/
theorem rows_keep_content_mixed :
    (columnNames [.text "id", .empty, .text "id"]).Nodup ∧
      (∀ line ∈ [[.number .zero, .bool true, .empty], [.empty, .empty, .empty],
        [SheetCell.empty, .error "#N/A", .text ""]], line.length ≤ 3) ∧
      List.Forall₂
        (fun line (row : Row) => row.entries = pairs SheetCell.content?
          (columnNames [.text "id", .empty, .text "id"]) line)
        ([[.number .zero, .bool true, .empty], [.empty, .empty, .empty],
          [.empty, .error "#N/A", .text ""]].filter hasContent)
        (rows [[.text "id", .empty, .text "id"], [.number .zero, .bool true, .empty],
          [.empty, .empty, .empty], [.empty, .error "#N/A", .text ""]]) := by
  have hdistinct : (columnNames [.text "id", .empty, .text "id"]).Nodup := by decide
  have hwidth : ∀ line ∈ [[.number .zero, .bool true, .empty], [.empty, .empty, .empty],
      [SheetCell.empty, .error "#N/A", .text ""]], line.length ≤ 3 := by decide
  exact ⟨hdistinct, hwidth, (rows_keep_content_iff hdistinct hwidth).mpr (by decide)⟩

/-- A line that holds only a day gives no row. -/
theorem rows_serial_line :
    (columnNames [.text "day"]).Nodup ∧ hasContent [.serial (.ofNat 45000)] = true ∧
      rows [[.text "day"], [.serial (.ofNat 45000)]] = [] :=
  ⟨by decide, rfl, rfl⟩

end Grid

namespace StoredCells

/-- The lines of a sheet are as wide as its header. -/
theorem length_eq_of_mem_grid {rows : StoredCells} {line : List SheetCell}
    (h : line ∈ grid rows) : line.length = usedColumns rows - leadingColumns rows := by
  obtain ⟨row, -, rfl⟩ := List.mem_map.mp h
  simp only [List.length_map, List.length_drop, List.length_take, List.length_append,
    List.length_replicate]
  omega

end StoredCells

end TableQuery
