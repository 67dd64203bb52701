import Mathlib.Data.List.Nodup
import Mathlib.Tactic.TFAE
import TableQuery.Proofs.OrderedMap
import TableQuery.Source.Workbook

/-!
# Column names of a sheet

A header is numbered by how often it came before, so the names of a header row
are its headers with their ordinals, and no header has an ordinal twice. Two
different ordinals can still be written alike: `a_1` is the first `a_1` as well
as the second `a`. This is the only way in which two columns come to one name,
and then a row loses a cell.
-/

namespace TableQuery.Grid

/-! ## Numbered names -/

/-- The number behind a name holds no underscore, so the last one in the name is the one before it. -/
theorem append_underscore_inj {s t : List Char} {i j : Nat}
    (h : s ++ '_' :: Nat.toDigits 10 i = t ++ '_' :: Nat.toDigits 10 j) : s = t ∧ i = j := by
  have hdigits : ∀ {n m : Nat}, Nat.toDigits 10 n = Nat.toDigits 10 m → n = m := by
    intro n m heq
    rw [← Nat.ofDigitChars_ten_toDigits (n := n), heq, Nat.ofDigitChars_ten_toDigits]
  have hshort : ∀ {n m : Nat} {middle : List Char},
      '_' :: Nat.toDigits 10 n = middle ++ '_' :: Nat.toDigits 10 m → middle = [] ∧ n = m := by
    intro n m middle heq
    cases middle with
    | nil => exact ⟨rfl, hdigits (List.cons.inj heq).2⟩
    | cons c middle =>
        have htail := (List.cons.inj heq).2
        have hmem : '_' ∈ Nat.toDigits 10 n := by simp [htail]
        exact absurd hmem Nat.underscore_not_in_toDigits
  rcases List.append_eq_append_iff.mp h with ⟨middle, ht, hs⟩ | ⟨middle, hs, ht⟩
  · obtain ⟨rfl, hij⟩ := hshort hs
    exact ⟨by simpa using ht.symm, hij⟩
  · obtain ⟨rfl, hji⟩ := hshort ht
    exact ⟨by simpa using hs, hji.symm⟩

theorem toList_numbered {base : String} {i : Nat} (h : 1 ≤ i) :
    (numbered base i).toList = base.toList ++ '_' :: Nat.toDigits 10 i := by
  have hnumber : i ≠ 0 := by omega
  simp [numbered, hnumber]

/-- Names that carry a number tell base and number. -/
theorem numbered_inj {base other : String} {i j : Nat} (hi : 1 ≤ i) (hj : 1 ≤ j)
    (h : numbered base i = numbered other j) : base = other ∧ i = j := by
  have hlist := congrArg String.toList h
  rw [toList_numbered hi, toList_numbered hj] at hlist
  obtain ⟨hbase, hij⟩ := append_underscore_inj hlist
  exact ⟨String.toList_inj.mp hbase, hij⟩

@[simp] theorem numbered_zero (base : String) : numbered base 0 = base := rfl

/-! ## Ordinals -/

/-- Headers with the number of equal headers before each of them. -/
def ordinals (before : List String) : List String → List (String × Nat)
  | [] => []
  | base :: rest => (base, before.count base) :: ordinals (base :: before) rest

theorem nameColumns_eq_map_ordinals (before headers : List String) :
    nameColumns before headers = (ordinals before headers).map fun o => numbered o.1 o.2 := by
  induction headers generalizing before with
  | nil => rfl
  | cons base rest ih => rw [nameColumns, ordinals, List.map_cons, ih]

/-- The ordinals of a header run from the number of those before up to the number of all. -/
theorem mem_ordinals_iff {before headers : List String} {base : String} {i : Nat} :
    (base, i) ∈ ordinals before headers ↔
      before.count base ≤ i ∧ i < before.count base + headers.count base := by
  induction headers generalizing before with
  | nil =>
      simp only [ordinals, List.not_mem_nil, List.count_nil, false_iff]
      omega
  | cons header rest ih =>
      rw [ordinals, List.mem_cons, ih, Prod.mk.injEq, List.count_cons, List.count_cons]
      by_cases h : header = base
      · subst h
        simp
        omega
      · simp [h, Ne.symm h]

theorem nodup_ordinals (before headers : List String) : (ordinals before headers).Nodup := by
  induction headers generalizing before with
  | nil => exact List.nodup_nil
  | cons base rest ih =>
      rw [ordinals, List.nodup_cons]
      refine ⟨?_, ih (base :: before)⟩
      rw [mem_ordinals_iff, List.count_cons_self]
      omega

/-! ## Names -/

theorem nodup_columnNames_iff (cells : List SheetCell) :
    (columnNames cells).Nodup ↔ ∀ base i, 1 ≤ i → i < (cells.map SheetCell.header).count base →
      numbered base i ∉ cells.map SheetCell.header := by
  have hmem : ∀ {base i}, (base, i) ∈ ordinals [] (cells.map SheetCell.header) ↔
      i < (cells.map SheetCell.header).count base := by
    intro base i
    rw [mem_ordinals_iff]
    simp
  rw [columnNames, nameColumns_eq_map_ordinals, List.nodup_map_iff_inj_on (nodup_ordinals ..)]
  constructor
  · intro hinj base i hi hcount hheader
    have hfirst : (numbered base i, 0) ∈ ordinals [] (cells.map SheetCell.header) :=
      hmem.mpr (List.count_pos_iff.mpr hheader)
    have heq := hinj _ hfirst (base, i) (hmem.mpr hcount) (numbered_zero _)
    have hzero : 0 = i := congrArg Prod.snd heq
    omega
  · intro hfree ⟨base, i⟩ hbase ⟨other, j⟩ hother heq
    rw [hmem] at hbase hother
    have hheader : ∀ {name : String}, 0 < (cells.map SheetCell.header).count name →
        name ∈ cells.map SheetCell.header := List.count_pos_iff.mp
    -- Only a bare header can be written like a numbered one, and that is excluded.
    rcases Nat.eq_zero_or_pos i with rfl | hi <;> rcases Nat.eq_zero_or_pos j with rfl | hj
    · simpa using heq
    · rw [numbered_zero] at heq
      exact absurd (hheader (heq ▸ hbase)) (hfree other j hj hother)
    · rw [numbered_zero] at heq
      exact absurd (hheader (heq ▸ hother)) (hfree base i hi hbase)
    · obtain ⟨rfl, rfl⟩ := numbered_inj hi hj heq
      rfl

/-! ## Rows under column names -/

/-- The columns and values of a line whose cells are read in some way. -/
def pairs (read : SheetCell → Option Cell) (columns : List String) (line : List SheetCell) :
    List (String × Cell) :=
  (columns.zip line).filterMap fun (column, cell) => (read cell).map (column, ·)

@[simp] theorem pairs_nil (read : SheetCell → Option Cell) (columns : List String) :
    pairs read columns [] = [] := by
  rw [pairs, List.zip_nil_right, List.filterMap_nil]

theorem pairs_cons_of_none {read : SheetCell → Option Cell} {cell : SheetCell}
    (h : read cell = none) (column : String) (columns : List String) (line : List SheetCell) :
    pairs read (column :: columns) (cell :: line) = pairs read columns line := by
  simp [pairs, h]

theorem pairs_cons_of_some {read : SheetCell → Option Cell} {cell : SheetCell} {value : Cell}
    (h : read cell = some value) (column : String) (columns : List String)
    (line : List SheetCell) :
    pairs read (column :: columns) (cell :: line) = (column, value) :: pairs read columns line := by
  simp [pairs, h]

theorem pairs_cons (read : SheetCell → Option Cell) (column : String) (columns : List String)
    (cell : SheetCell) (line : List SheetCell) :
    pairs read (column :: columns) (cell :: line) =
      ((read cell).map (column, ·)).toList ++ pairs read columns line := by
  cases h : read cell with
  | none => exact pairs_cons_of_none h ..
  | some value => exact pairs_cons_of_some h ..

theorem toRow_eq_ofList (columns : List String) (line : List SheetCell) :
    toRow columns line = OrderedMap.ofList (pairs SheetCell.toCell? columns line) := by
  rw [toRow, OrderedMap.ofList, pairs, List.foldl_filterMap]
  congr 1
  funext row entry
  obtain ⟨column, cell⟩ := entry
  cases h : cell.toCell? <;> simp [h]

theorem map_fst_pairs_sublist (read : SheetCell → Option Cell) (columns : List String)
    (line : List SheetCell) : ((pairs read columns line).map Prod.fst).Sublist columns := by
  induction columns generalizing line with
  | nil => exact List.Sublist.refl []
  | cons column columns ih =>
      cases line with
      | nil => exact List.nil_sublist _
      | cons cell line =>
          cases h : read cell with
          | none =>
              rw [pairs_cons_of_none h]
              exact (ih line).cons column
          | some value =>
              rw [pairs_cons_of_some h]
              exact (ih line).cons_cons column

/-- Under distinct columns every cell that is read keeps its place in the row. -/
theorem entries_toRow {columns : List String} (h : columns.Nodup) (line : List SheetCell) :
    (toRow columns line).entries = pairs SheetCell.toCell? columns line := by
  rw [toRow_eq_ofList, OrderedMap.entries_ofList]
  exact (map_fst_pairs_sublist ..).nodup h

/-- A line that is full of texts names all columns. -/
theorem map_fst_pairs_text (columns : List String) :
    (pairs SheetCell.toCell? columns (columns.map .text)).map Prod.fst = columns := by
  induction columns with
  | nil => rfl
  | cons column columns ih => exact congrArg (column :: ·) ih

/-- Column names are distinct exactly if no line loses a cell to another cell under the same name,
and exactly if no header is written like a header of another name with its number behind it. -/
theorem columnNames_tfae (cells : List SheetCell) :
    [(columnNames cells).Nodup,
      ∀ line, (toRow (columnNames cells) line).size =
        (pairs SheetCell.toCell? (columnNames cells) line).length,
      ∀ base i, 1 ≤ i → i < (cells.map SheetCell.header).count base →
        numbered base i ∉ cells.map SheetCell.header].TFAE := by
  tfae_have 1 ↔ 3 := nodup_columnNames_iff cells
  tfae_have 1 → 2 := by
    intro h line
    rw [OrderedMap.size, entries_toRow h]
  tfae_have 2 → 1 := by
    intro h
    have hfull := h ((columnNames cells).map .text)
    rw [toRow_eq_ofList, OrderedMap.size_ofList_eq_iff, map_fst_pairs_text] at hfull
    exact hfull
  tfae_finish

/-- The second `a` is named like the header `a_1`, and what stands under it replaces the cell
there. -/
theorem columnNames_numbered_header :
    ¬(columnNames [.text "a_1", .text "a", .text "a"]).Nodup ∧
      (toRow (columnNames [.text "a_1", .text "a", .text "a"])
          [.text "x", .text "y", .text "z"]).entries =
        [("a_1", .text "z"), ("a", .text "y")] := by
  decide

end TableQuery.Grid
