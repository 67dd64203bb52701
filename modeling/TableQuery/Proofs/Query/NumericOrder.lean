import TableQuery.Proofs.Cell.Alike
import TableQuery.Proofs.Cell.LongestNumber
import TableQuery.Proofs.Number.Words
import TableQuery.Proofs.Query.Sorting

/-!
# Sorting and filtering order numbers in the same way

A sort reads a cell as a whole and compares the words that store the numbers,
made uniform before; a condition reads the number at the start of a cell and
compares numerically. A cell that is a number as a whole starts with this
number, so both see the same place on the number line. The four relational
operators then accept just what the ascending sort answers.
-/

namespace TableQuery

/-- A cell that is a number as a whole starts with a number of the same place. -/
theorem Cell.leadingPlace?_of_interpret {cell : Cell} {x : Number}
    (h : cell.interpret = .number x) : cell.leadingPlace? = x.place := by
  cases cell with
  | text s =>
      obtain ⟨blanks, hscan⟩ := Number.exists_scan_trimStart (interpret_text_eq_number_iff.mp h)
      rw [leadingPlace?, leadingNumber?, hscan]
      rfl
  | number y =>
      cases h
      exact leadingPlace?_number x
  | null => cases h

/-- Which operators accept tells how two numbers compare. -/
theorem Operator.eq_iff_accepts (o : Ordering) : (o = .lt ↔ accepts .lt o) ∧
    (o = .eq ↔ accepts .le o ∧ accepts .ge o) ∧ (o = .gt ↔ accepts .gt o) := by
  cases o <;> decide

namespace Sorting

variable {column : String} {a b : Row} {x y : Number}

theorem compare_asc (ha : (a.value column).interpret = .number x)
    (hb : (b.value column).interpret = .number y) :
    compare ⟨column, .asc⟩ a b = x.sortCompare y := by
  have hkeys : compare ⟨column, .asc⟩ a b =
      (a.value column).interpret.order (b.value column).interpret := rfl
  rw [hkeys, ha, hb]
  rfl

theorem compare_desc (column : String) (a b : Row) :
    compare ⟨column, .desc⟩ a b = (compare ⟨column, .asc⟩ a b).swap := rfl

/-- On cells that are numbers, a relational operator accepts what the ascending sort answers. -/
theorem holds_eq_accepts_compare {op : Operator} (hop : op.isRelational)
    (ha : (a.value column).interpret = .number x) (hx : x ≠ .nan)
    (hb : (b.value column).interpret = .number y) (hy : y ≠ .nan) :
    op.holds (a.value column) (b.value column) = op.accepts (compare ⟨column, .asc⟩ a b) := by
  obtain ⟨p, hp⟩ := Number.exists_place_eq hx
  obtain ⟨q, hq⟩ := Number.exists_place_eq hy
  rw [Operator.holds_of_isRelational hop, Operator.relates_eq, Cell.leadingPlace?_of_interpret ha,
    Cell.leadingPlace?_of_interpret hb, compare_asc ha hb, Number.sortCompare_eq hp hq, hp, hq]
  rfl

/-- Rows whose cells are numbers as a whole come before one another in an ascending sort as `<` says
of the cells, after one another as `>` says, and tie when both `<=` and `>=` hold. In a descending
sort it is the other way round. The sort's answer is that of the words that store the numbers. -/
theorem compare_iff_holds (ha : (a.value column).interpret = .number x) (hx : x ≠ .nan)
    (hb : (b.value column).interpret = .number y) (hy : y ≠ .nan) :
    ((compare ⟨column, .asc⟩ a b = .lt ↔
          Operator.holds .lt (a.value column) (b.value column)) ∧
        (compare ⟨column, .asc⟩ a b = .eq ↔
          Operator.holds .le (a.value column) (b.value column) ∧
            Operator.holds .ge (a.value column) (b.value column)) ∧
        (compare ⟨column, .asc⟩ a b = .gt ↔
          Operator.holds .gt (a.value column) (b.value column))) ∧
      ((compare ⟨column, .desc⟩ a b = .lt ↔
          Operator.holds .gt (a.value column) (b.value column)) ∧
        (compare ⟨column, .desc⟩ a b = .eq ↔
          Operator.holds .le (a.value column) (b.value column) ∧
            Operator.holds .ge (a.value column) (b.value column)) ∧
        (compare ⟨column, .desc⟩ a b = .gt ↔
          Operator.holds .lt (a.value column) (b.value column))) ∧
      ∀ v w : Word, v.toNumber = x → w.toNumber = y →
        compare ⟨column, .asc⟩ a b = Word.totalCompare v.normalize w.normalize := by
  have hop (op : Operator) (h : op.isRelational) := holds_eq_accepts_compare h ha hx hb hy
  obtain ⟨hlt, heq, hgt⟩ := Operator.eq_iff_accepts (compare ⟨column, .asc⟩ a b)
  rw [← hop .lt rfl] at hlt
  rw [← hop .le rfl, ← hop .ge rfl] at heq
  rw [← hop .gt rfl] at hgt
  refine ⟨⟨hlt, heq, hgt⟩, ?_, ?_⟩
  · rw [compare_desc, Ordering.swap_eq_lt, Ordering.swap_eq_eq, Ordering.swap_eq_gt]
    exact ⟨hgt, heq, hlt⟩
  · rintro v w rfl rfl
    rw [compare_asc ha hb, Word.totalCompare_normalize]

/-- A text of a negative zero with blanks around it ties with the number zero, though the words that
store them differ. -/
theorem compare_iff_holds_zeros :
    (Row.value (.ofList [("n", .text " -0e5 ")]) "n").interpret = .number .negativeZero ∧
      Number.negativeZero ≠ .nan ∧
      (Row.value (.ofList [("n", .number .zero)]) "n").interpret = .number .zero ∧
      Number.zero ≠ .nan ∧
      Word.toNumber 0x8000000000000000 = .negativeZero ∧ Word.toNumber 0 = .zero ∧
      compare ⟨"n", .desc⟩ (.ofList [("n", .text " -0e5 ")]) (.ofList [("n", .number .zero)]) =
        .eq ∧
      compare ⟨"n", .asc⟩ (.ofList [("n", .text " -0e5 ")]) (.ofList [("n", .number .zero)]) =
        Word.totalCompare (Word.normalize 0x8000000000000000) (Word.normalize 0) := by
  have hnegative : (Row.value (.ofList [("n", .text " -0e5 ")]) "n").interpret =
      .number .negativeZero := by decide +kernel
  have hzero : (Row.value (.ofList [("n", .number .zero)]) "n").interpret = .number .zero := by
    decide +kernel
  have hword : Word.toNumber 0x8000000000000000 = .negativeZero := by decide +kernel
  have hword' : Word.toNumber 0 = .zero := by decide +kernel
  have htie : Operator.holds .le (Row.value (.ofList [("n", .text " -0e5 ")]) "n")
        (Row.value (.ofList [("n", .number .zero)]) "n") ∧
      Operator.holds .ge (Row.value (.ofList [("n", .text " -0e5 ")]) "n")
        (Row.value (.ofList [("n", .number .zero)]) "n") := by decide +kernel
  obtain ⟨-, ⟨-, hdesc, -⟩, hwords⟩ :=
    compare_iff_holds hnegative Number.noConfusion hzero Number.noConfusion
  exact ⟨hnegative, Number.noConfusion, hzero, Number.noConfusion, hword, hword', hdesc.mpr htie,
    hwords _ _ hword hword'⟩

end Sorting

end TableQuery
