import TableQuery.Proofs.Cell.Literal
import TableQuery.Proofs.Cell.LooseText
import TableQuery.Proofs.Cell.NumberText
import TableQuery.Proofs.Query.Denotation

/-!
# A row is found by the text of its cell

The left operand of a condition is the cell itself, the right one is what the
literal is interpreted as. For the text that the cell is shown as, the two are
equal, and the numbers at their starts have one place on the number line or are
both missing. So all six operators answer as they would for a cell compared with
itself.
-/

namespace TableQuery

namespace Cell

theorem leadingNumber?_number {x : Number} (hx : x ≠ .nan) :
    (number x).leadingNumber? = some x := by
  cases x with
  | nan => exact absurd rfl hx
  | signed negative m => rfl

/-- A cell and an operand that every operator takes for the same. -/
structure Matches (cell operand : Cell) : Prop where
  looseEq : cell.looseEq operand = true
  leading : cell.leadingNumber? = none ∧ operand.leadingNumber? = none ∨
    ∃ x y place, cell.leadingNumber? = some x ∧ operand.leadingNumber? = some y ∧
      x.place = some place ∧ y.place = some place

/-- Text that is a number is compared as this number, and all other text as it is. -/
theorem matches_text (s : String) : (text s).Matches (text s).interpret := by
  cases hread : Number.ofText? s.toList with
  | none =>
      have hsame : (text s).interpret = text s := by simp [interpret, hread]
      rw [hsame]
      refine ⟨beq_self_eq_true s, ?_⟩
      cases hleading : (text s).leadingNumber? with
      | none => exact .inl ⟨rfl, rfl⟩
      | some x =>
          obtain ⟨⟨y, tail⟩, hscan, rfl⟩ := Option.map_eq_some_iff.mp hleading
          obtain ⟨place, hplace⟩ := Number.exists_place_eq (Number.scan_ne_nan hscan)
          exact .inr ⟨y, y, place, rfl, rfl, hplace, hplace⟩
  | some n =>
      have hnumber : (text s).interpret = number n := by simp [interpret, hread]
      obtain ⟨blanks, hscan⟩ := Number.exists_scan_trimStart hread
      have hn : n ≠ .nan := Number.scan_ne_nan hscan
      obtain ⟨place, hplace⟩ := Number.exists_place_eq hn
      rw [hnumber]
      refine ⟨?_, .inr ⟨n, n, place, ?_, leadingNumber?_number hn, hplace, hplace⟩⟩
      · rw [looseEq, Number.ofLooseText_eq hread, Number.numericEq_iff hplace hplace]
      · rw [leadingNumber?, hscan]
        rfl

/-- The text of a number is compared as a number of the same place. -/
theorem matches_number {x : Number} (hx : x ≠ .nan) :
    (number x).Matches (text (number x).toText).interpret := by
  obtain ⟨y, place, hread, hplace, hplace'⟩ := Number.exists_ofText?_render hx
  have hnumber : (text (number x).toText).interpret = number y := by
    simp [interpret, toText, hread]
  have hy : y ≠ .nan := by
    rintro rfl
    cases hplace'
  rw [hnumber]
  exact ⟨(Number.numericEq_iff hplace hplace').mpr rfl, .inr ⟨x, y, place,
    leadingNumber?_number hx, leadingNumber?_number hy, hplace, hplace'⟩⟩

theorem matches_interpret_toText {cell : Cell} (hnull : cell ≠ .null)
    (hnan : cell ≠ .number .nan) : cell.Matches (text cell.toText).interpret := by
  cases cell with
  | text s => exact matches_text s
  | number x => exact matches_number fun h => hnan (congrArg number h)
  | null => exact absurd rfl hnull

end Cell

theorem Operator.relates_of_matches {cell operand : Cell} (h : cell.Matches operand)
    (op : Operator) : op.relates cell operand = (cell.leadingNumber?.isSome && op.accepts .eq) := by
  rcases h.leading with ⟨hcell, hoperand⟩ | ⟨x, y, place, hcell, hoperand, hx, hy⟩
  · rw [relates, hcell, hoperand]
    rfl
  · simp [relates, hcell, hoperand, Number.compare?_eq hx hy]

namespace Condition

theorem holds_ofLiteral {column : String} (hcolumn : column ≠ "") (op : Operator) (value : String)
    (row : Row) (domain : List Row) : (ofLiteral column op value).holds row domain =
      op.holds (row.value column) (Cell.text value).interpret := by
  rw [holds_eq_denote]
  simp [denote, leftCell, rightCell, ofLiteral, Operand.cell, hasRightOperand, hcolumn]

/-- A row whose cell is not empty and is not a number that is none is found by the text of the
cell: equality holds of it and inequality does not, `>=` and `<=` hold exactly if the cell starts
with a number, and `>` and `<` never hold. -/
theorem holds_ofLiteral_toText {row : Row} {column : String} (hcolumn : column ≠ "")
    (hnull : row.value column ≠ .null) (hnan : row.value column ≠ .number .nan)
    (domain : List Row) :
    (ofLiteral column (.ofToken "=") (row.value column).toText).holds row domain = true ∧
      (ofLiteral column (.ofToken "!=") (row.value column).toText).holds row domain = false ∧
      ((ofLiteral column (.ofToken ">=") (row.value column).toText).holds row domain = true ↔
        (row.value column).leadingNumber?.isSome) ∧
      ((ofLiteral column (.ofToken "<=") (row.value column).toText).holds row domain = true ↔
        (row.value column).leadingNumber?.isSome) ∧
      (ofLiteral column (.ofToken ">") (row.value column).toText).holds row domain = false ∧
      (ofLiteral column (.ofToken "<") (row.value column).toText).holds row domain = false := by
  have hmatches := Cell.matches_interpret_toText hnull hnan
  have hrelates := Operator.relates_of_matches hmatches
  have hcompares (op : Operator) := holds_ofLiteral hcolumn op (row.value column).toText row domain
  refine ⟨?_, ?_, ?_, ?_, ?_, ?_⟩
  · exact (hcompares .eq).trans hmatches.looseEq
  · exact (hcompares .ne).trans (congrArg not hmatches.looseEq)
  · exact Bool.eq_iff_iff.mp ((hcompares .ge).trans ((hrelates .ge).trans (Bool.and_true _)))
  · exact Bool.eq_iff_iff.mp ((hcompares .le).trans ((hrelates .le).trans (Bool.and_true _)))
  · exact (hcompares .gt).trans ((hrelates .gt).trans (Bool.and_false _))
  · exact (hcompares .lt).trans ((hrelates .lt).trans (Bool.and_false _))

/-- A number that is shown with an exponent is found by this text, whatever the domain. -/
theorem holds_ofLiteral_toText_exponent :
    "n" ≠ "" ∧
      Row.value (.ofList [("n", .number (.signed true (.ofDecimal 5 (-324))))]) "n" ≠ .null ∧
      Row.value (.ofList [("n", .number (.signed true (.ofDecimal 5 (-324))))]) "n" ≠ .number .nan ∧
      (Row.value (.ofList [("n", .number (.signed true (.ofDecimal 5 (-324))))]) "n").toText =
        "-5e-324" ∧
      (ofLiteral "n" (.ofToken "=") "-5e-324").holds
        (.ofList [("n", .number (.signed true (.ofDecimal 5 (-324))))]) [] = true ∧
      (ofLiteral "n" (.ofToken ">=") "-5e-324").holds
        (.ofList [("n", .number (.signed true (.ofDecimal 5 (-324))))]) [] = true := by
  have hcolumn : "n" ≠ "" := by decide
  have hnull : Row.value (.ofList [("n", .number (.signed true (.ofDecimal 5 (-324))))]) "n" ≠
      .null := by decide +kernel
  have hnan : Row.value (.ofList [("n", .number (.signed true (.ofDecimal 5 (-324))))]) "n" ≠
      .number .nan := by decide +kernel
  have htext : (Row.value (.ofList [("n", .number (.signed true (.ofDecimal 5 (-324))))])
      "n").toText = "-5e-324" := by decide +kernel
  obtain ⟨hequal, -, hatLeast, -⟩ := holds_ofLiteral_toText hcolumn hnull hnan []
  rw [htext] at hequal hatLeast
  exact ⟨hcolumn, hnull, hnan, htext, hequal, hatLeast.mpr rfl⟩

end Condition

end TableQuery
