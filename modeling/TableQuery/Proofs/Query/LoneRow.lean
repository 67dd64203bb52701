import TableQuery.Proofs.Number.Places
import TableQuery.Proofs.Query.Extremes

/-!
# Aggregates over a single row

Over one row every aggregate is the number that its cell is read as, or an empty
cell if it is read as none: each fold starts at a number that is neutral for it.
So a relational condition does not see whether its column is aggregated, provided
that both ways name the same cell. They need not: an aggregate drops the blanks
around the name of its column, and a bare column is taken by its name as it is.
-/

namespace TableQuery

namespace Aggregate

/-- The column that an aggregate reads. -/
def source (column : String) : String := String.ofList (Text.trim column.toList)

theorem source_eq_self_iff {column : String} :
    source column = column ↔ Text.trim column.toList = column.toList := by
  rw [source, ← String.toList_inj, String.toList_ofList]

variable {aggregate : Aggregate} {rows : List Row} {row : Row} {column : String}

theorem readings_eq (column : String) (rows : List Row) : readings column rows =
    rows.filterMap fun row => (row.value (source column)).leadingNumber? := rfl

/-- An aggregate of one number is this number. -/
theorem ofReadings?_singleton (h : aggregate.isSupported) {x : Number} (hx : x ≠ .nan) :
    aggregate.ofReadings? [x] = some x := by
  cases aggregate with
  | min => exact congrArg some (Number.infinity_min hx)
  | max => exact congrArg some (Number.negativeInfinity_max hx)
  | sum => exact congrArg some (Number.negativeZero_add x)
  | avg =>
      have hsum : Number.sum [x] = x := Number.negativeZero_add x
      simp only [ofReadings?, hsum, List.length_singleton, Number.div_one]
  | unsupported name => cases h

/-- Over one row an aggregate is read as the same number as the cell in its column. -/
theorem leadingNumber?_compute_lone_row (h : aggregate.isSupported) (row : Row) (column : String) :
    (aggregate.compute [row] column).leadingNumber? = (row.value (source column)).leadingNumber? := by
  cases hread : (row.value (source column)).leadingNumber? with
  | none =>
      have hreadings : readings column [row] = [] := by simp [readings_eq, hread]
      rw [compute_of_readings_eq_nil hreadings]
      rfl
  | some x =>
      have hx : x ≠ .nan := Cell.leadingNumber?_ne_nan hread
      have hreadings : readings column [row] = [x] := by simp [readings_eq, hread]
      have hcompute : aggregate.compute [row] column = .number x := by
        rw [compute_of_readings_ne_nil (by simp [hreadings]), hreadings, ofReadings?_singleton h hx]
        rfl
      rw [hcompute, Cell.leadingNumber?]
      cases x with
      | nan => exact absurd rfl hx
      | signed => rfl

theorem leadingPlace?_compute_lone_row (h : aggregate.isSupported) (row : Row) (column : String) :
    (aggregate.compute [row] column).leadingPlace? = (row.value (source column)).leadingPlace? := by
  rw [Cell.leadingPlace?, leadingNumber?_compute_lone_row h, Cell.leadingPlace?]

/-- An aggregate is an empty cell only if no cell of its column is read as a number. -/
theorem compute_eq_null_iff (h : aggregate.isSupported) : aggregate.compute rows column = .null ↔
    ∀ row ∈ rows, (row.value (source column)).leadingNumber? = none := by
  have hreadings : readings column rows = [] ↔
      ∀ row ∈ rows, (row.value (source column)).leadingNumber? = none := List.filterMap_eq_nil_iff
  rw [← hreadings]
  constructor
  · intro hnull
    by_contra hne
    rw [compute_of_readings_ne_nil hne] at hnull
    cases aggregate with
    | unsupported name => cases h
    | min | max | sum | avg => exact nomatch hnull
  · exact fun hnil => compute_of_readings_eq_nil hnil aggregate

end Aggregate

/-- Places that the relational operators do not tell apart are the same. -/
theorem Operator.eq_of_relatesPlaces_eq {p q : Option Int}
    (hp : ∀ op : Operator, op.isRelational → op.relatesPlaces p p = op.relatesPlaces q p)
    (hq : ∀ op : Operator, op.isRelational → op.relatesPlaces p q = op.relatesPlaces q q) :
    p = q := by
  have hge := hp .ge rfl
  have hle := hp .le rfl
  have hge' := hq .ge rfl
  cases p with
  | none =>
      cases q with
      | none => rfl
      | some b => simp [relatesPlaces, accepts] at hge'
  | some a =>
      cases q with
      | none => simp [relatesPlaces, accepts] at hge
      | some b =>
          have hba : accepts .ge (compare b a) := hge.symm.trans (accepts_ge_iff.mpr le_rfl)
          have hab : accepts .le (compare b a) := hle.symm.trans (accepts_le_iff.mpr le_rfl)
          rw [le_antisymm (accepts_ge_iff.mp hba) (accepts_le_iff.mp hab)]

namespace Condition

/-- Over the single row, no relational condition on a column sees whether it is aggregated. -/
def AggregatesAlike (row : Row) (column : String) : Prop :=
  ∀ aggregate : Aggregate, aggregate.isSupported → ∀ c : Condition, c.leftAggregate = none →
    c.leftColumn = column → c.operator.isRelational →
    (c.withLeftAggregate aggregate).holds row [row] = c.holds row [row]

variable {row : Row} {column : String} {aggregate : Aggregate} {c : Condition}

theorem holds_bare (hbare : c.leftAggregate = none) (hcolumn : c.leftColumn ≠ "")
    (hop : c.operator.isRelational) : c.holds row [row] =
      c.operator.relatesPlaces (row.value c.leftColumn).leadingPlace?
        (c.rightCell row [row]).leadingPlace? := by
  have hleft : c.leftCell row [row] = row.value c.leftColumn := by
    rw [leftCell, hbare]
    exact if_neg hcolumn
  rw [holds_eq_denote, denote, hleft, Operator.holds_of_isRelational hop, Operator.relates_eq]

theorem holds_aggregated (h : aggregate.isSupported) (hcolumn : c.leftColumn ≠ "")
    (hop : c.operator.isRelational) : (c.withLeftAggregate aggregate).holds row [row] =
      c.operator.relatesPlaces (row.value (Aggregate.source c.leftColumn)).leadingPlace?
        (c.rightCell row [row]).leadingPlace? := by
  have hleft : (c.withLeftAggregate aggregate).leftCell row [row] =
      aggregate.compute [row] c.leftColumn := if_neg hcolumn
  have hright : (c.withLeftAggregate aggregate).rightCell row [row] = c.rightCell row [row] := rfl
  rw [holds_eq_denote, denote, hleft, hright, withLeftAggregate, Operator.holds_of_isRelational hop,
    Operator.relates_eq, Aggregate.leadingPlace?_compute_lone_row h]

theorem aggregatesAlike_iff (hcolumn : column ≠ "") : AggregatesAlike row column ↔
    (row.value (Aggregate.source column)).leadingPlace? = (row.value column).leadingPlace? := by
  constructor
  · intro halike
    -- The column is compared with itself, as it stands on either side.
    have hwith : ∀ rightAggregate (op : Operator), op.isRelational →
        op.relatesPlaces (row.value (Aggregate.source column)).leadingPlace?
            (Operand.cell rightAggregate column row [row]).leadingPlace? =
          op.relatesPlaces (row.value column).leadingPlace?
            (Operand.cell rightAggregate column row [row]).leadingPlace? := by
      intro rightAggregate op hop
      have h := halike .max rfl ⟨.and, none, column, op, rightAggregate, column, ""⟩ rfl rfl hop
      rw [holds_aggregated rfl hcolumn hop, holds_bare rfl hcolumn hop] at h
      simpa [rightCell, hasRightOperand, hcolumn] using h
    have hmax : (Aggregate.max.compute [row] column).leadingPlace? = _ :=
      Aggregate.leadingPlace?_compute_lone_row rfl row column
    refine Operator.eq_of_relatesPlaces_eq (fun op hop => ?_) fun op hop => ?_
    · simpa [Operand.cell, hcolumn, hmax] using hwith (some .max) op hop
    · simpa [Operand.cell, hcolumn] using hwith none op hop
  · rintro hplace aggregate h c hbare rfl hop
    rw [holds_aggregated h hcolumn hop, holds_bare hbare hcolumn hop, hplace]

/-- What a condition with an aggregated column says of a row that is alone: it applies its operator
to the cell that the aggregate reads. This is what the bare column says if its name has no blanks
around it; in general it is so exactly if both cells are read as equal numbers or both as none. An
aggregate is an empty cell exactly if no cell that it reads is read as a number. -/
theorem holds_withLeftAggregate_lone_row (row : Row) (hcolumn : column ≠ "") :
    (Text.trim column.toList = column.toList → AggregatesAlike row column) ∧
      (∀ aggregate : Aggregate, aggregate.isSupported → ∀ c : Condition, c.leftColumn = column →
        c.operator.isRelational → (c.withLeftAggregate aggregate).holds row [row] =
          c.operator.holds (row.value (Aggregate.source column)) (c.rightCell row [row])) ∧
      (AggregatesAlike row column ↔ (row.value (Aggregate.source column)).leadingPlace? =
        (row.value column).leadingPlace?) ∧
      ∀ aggregate : Aggregate, aggregate.isSupported → ∀ rows,
        aggregate.compute rows column = .null ↔ ∀ row ∈ rows,
          (row.value (Aggregate.source column)).leadingNumber? = none := by
  refine ⟨fun htrim => ?_, ?_, aggregatesAlike_iff hcolumn,
    fun aggregate h rows => Aggregate.compute_eq_null_iff h⟩
  · rw [aggregatesAlike_iff hcolumn, Aggregate.source_eq_self_iff.mpr htrim]
  · rintro aggregate h c rfl hop
    rw [holds_aggregated h hcolumn hop, Operator.holds_of_isRelational hop, Operator.relates_eq]

/-- The average of `30 units` alone is read like the cell itself. -/
theorem holds_withLeftAggregate_lone_row_units :
    "n" ≠ "" ∧ AggregatesAlike (.ofList [("n", .text "30 units")]) "n" ∧
      ((ofLiteral "n" .ge "30").withLeftAggregate .avg).holds
        (.ofList [("n", .text "30 units")]) [.ofList [("n", .text "30 units")]] = true ∧
      Aggregate.avg.compute [.ofList [("n", .text "30 units")]] "n" ≠ .null := by
  have hcolumn : "n" ≠ "" := by decide
  obtain ⟨halike, hholds, -, hnull⟩ :=
    holds_withLeftAggregate_lone_row (.ofList [("n", .text "30 units")]) hcolumn
  refine ⟨hcolumn, halike (by decide), ?_, ?_⟩
  · exact (hholds .avg rfl (ofLiteral "n" .ge "30") rfl rfl).trans (by decide +kernel)
  · rw [Ne, hnull .avg rfl, List.forall_mem_singleton]
    decide +kernel

/-- A column whose name starts with a blank holds a number, and its aggregates are empty. -/
theorem not_aggregatesAlike_blank :
    " salary" ≠ "" ∧
      (ofLiteral " salary" .gt "1").holds (.ofList [(" salary", .number (.ofNat 5))])
        [.ofList [(" salary", .number (.ofNat 5))]] = true ∧
      ((ofLiteral " salary" .gt "1").withLeftAggregate .max).holds
        (.ofList [(" salary", .number (.ofNat 5))])
        [.ofList [(" salary", .number (.ofNat 5))]] = false ∧
      Aggregate.max.compute [.ofList [(" salary", .number (.ofNat 5))]] " salary" = .null := by
  decide +kernel

end Condition

end TableQuery
