import TableQuery.Proofs.Query.RowOrder

/-!
# Comparing a column with its least or greatest number

The least and the greatest number of a column are found by folds that start at
an infinity. On the number line they stand at the place of some reading, since
no reading lies beyond the infinities, and no reading lies on the far side of
them. A condition reads the aggregate like a cell and sees this place. So `<=`
against the greatest and `>=` against the least hold of all cells that are read
as a number, and turned round they hold of the cells at this place alone.
-/

namespace TableQuery

/-! ## Bounds of places -/

namespace Operator

theorem accepts_le_iff {p q : Int} : accepts .le (compare p q) ↔ p ≤ q := by
  rw [accepts, bne_iff_ne, Ne, compare_gt_iff_gt, not_lt]

theorem accepts_ge_iff {p q : Int} : accepts .ge (compare p q) ↔ q ≤ p := by
  rw [accepts, bne_iff_ne, Ne, compare_lt_iff_lt, not_lt]

/-- One of some places that all of them lie on one side of: `within` holds of each of them against
it, `reached` of none but itself. -/
structure IsBound (within reached : Operator) (places : List Int) (bound : Int) : Prop where
  mem : bound ∈ places
  within : ∀ p ∈ places, within.accepts (compare p bound)
  reached : ∀ p ∈ places, reached.accepts (compare p bound) ↔ p = bound

variable {places : List Int} {start : Int}

theorem isBound_foldl_max (hne : places ≠ []) (hstart : ∀ p ∈ places, start ≤ p) :
    IsBound .le .ge places (places.foldl Max.max start) := by
  obtain ⟨greatest, hmax⟩ := Option.isSome_iff_exists.mp (List.isSome_max?_iff.mpr hne)
  obtain ⟨hmem, hle⟩ := List.max?_eq_some_iff.mp hmax
  rw [List.foldl_max, hmax, Option.getD_some, max_eq_right (hstart greatest hmem)]
  refine ⟨hmem, fun p hp => accepts_le_iff.mpr (hle p hp), fun p hp => ?_⟩
  rw [accepts_ge_iff]
  exact ⟨fun h => le_antisymm (hle p hp) h, fun h => h.ge⟩

theorem isBound_foldl_min (hne : places ≠ []) (hstart : ∀ p ∈ places, p ≤ start) :
    IsBound .ge .le places (places.foldl Min.min start) := by
  obtain ⟨least, hmin⟩ := Option.isSome_iff_exists.mp (List.isSome_min?_iff.mpr hne)
  obtain ⟨hmem, hle⟩ := List.min?_eq_some_iff.mp hmin
  rw [List.foldl_min, hmin, Option.getD_some, min_eq_right (hstart least hmem)]
  refine ⟨hmem, fun p hp => accepts_ge_iff.mpr (hle p hp), fun p hp => ?_⟩
  rw [accepts_le_iff]
  exact ⟨fun h => le_antisymm h (hle p hp), fun h => h.le⟩

end Operator

/-! ## The places of a column -/

theorem Cell.leadingPlace?_eq_none_iff {cell : Cell} :
    cell.leadingPlace? = none ↔ cell.leadingNumber? = none := by
  rw [leadingPlace?]
  cases hleading : cell.leadingNumber? with
  | none => simp
  | some x =>
      obtain ⟨place, hplace⟩ := Number.exists_place_eq (leadingNumber?_ne_nan hleading)
      simp [hplace]

/-- The places of a column's readings, in row order. -/
def Row.places (column : String) (rows : List Row) : List Int :=
  rows.filterMap fun row => (row.value column).leadingPlace?

theorem Row.places_eq_nil_iff {column : String} {rows : List Row} : Row.places column rows = [] ↔
    ∀ row ∈ rows, (row.value column).leadingNumber? = none := by
  simp only [Row.places, List.filterMap_eq_nil_iff, Cell.leadingPlace?_eq_none_iff]

namespace Aggregate

variable {column : String} {rows : List Row} {aggregate : Aggregate} {within reached : Operator}

/-- The extremes, each with the operator that holds of all readings against it and the one that
holds only of those that are equal to it. -/
def extremes : List (Aggregate × Operator × Operator) := [(.max, .le, .ge), (.min, .ge, .le)]

theorem isRelational_of_mem_extremes (h : (aggregate, within, reached) ∈ extremes) :
    within.isRelational ∧ reached.isRelational := by
  have hall : ∀ extreme ∈ extremes,
      extreme.2.1.isRelational ∧ extreme.2.2.isRelational := by decide
  exact hall _ h

theorem filterMap_place_readings (htrim : Text.trim column.toList = column.toList) :
    (readings column rows).filterMap Number.place = Row.places column rows := by
  rw [readings, htrim, String.ofList_toList, List.filterMap_filterMap]
  rfl

theorem readings_eq_nil_iff (htrim : Text.trim column.toList = column.toList) :
    readings column rows = [] ↔ Row.places column rows = [] := by
  rw [readings, htrim, String.ofList_toList, Row.places_eq_nil_iff, List.filterMap_eq_nil_iff]

/-- An extreme stands at a bound of the places of its column. -/
theorem exists_isBound (htrim : Text.trim column.toList = column.toList)
    (hne : Row.places column rows ≠ []) (h : (aggregate, within, reached) ∈ extremes) :
    ∃ bound, (aggregate.compute rows column).leadingPlace? = some bound ∧
      Operator.IsBound within reached (Row.places column rows) bound := by
  have hplaced : ∀ x ∈ readings column rows, x ≠ .nan := fun _ => ne_nan_of_mem_readings
  have hbounds : ∀ p ∈ Row.places column rows,
      -(Magnitude.top : Int) ≤ p ∧ p ≤ Magnitude.top := by
    intro p hp
    obtain ⟨row, -, hrow⟩ := List.mem_filterMap.mp hp
    obtain ⟨x, -, hx⟩ := Cell.leadingPlace?_eq_some_iff.mp hrow
    exact Number.place_bounds hx
  rw [compute_of_readings_ne_nil (mt (readings_eq_nil_iff htrim).mp hne)]
  simp only [extremes, List.mem_cons, List.not_mem_nil, or_false, Prod.mk.injEq] at h
  rcases h with ⟨rfl, rfl, rfl⟩ | ⟨rfl, rfl, rfl⟩
  · refine ⟨_, ?_, Operator.isBound_foldl_max hne fun p hp => (hbounds p hp).1⟩
    rw [← filterMap_place_readings htrim]
    exact (Cell.leadingPlace?_number _).trans
      (Number.place_foldl (fun _ _ => Number.place_max) hplaced rfl)
  · refine ⟨_, ?_, Operator.isBound_foldl_min hne fun p hp => (hbounds p hp).2⟩
    rw [← filterMap_place_readings htrim]
    exact (Cell.leadingPlace?_number _).trans
      (Number.place_foldl (fun _ _ => Number.place_min) hplaced rfl)

end Aggregate

/-! ## Conditions against an extreme -/

namespace Query

/-- The query whose only condition compares a column with an aggregate of it. -/
def comparing (connective : Connective) (column : String) (op : Operator) (aggregate : Aggregate)
    (value : String) : Query :=
  { conditions := [⟨connective, none, column, op, some aggregate, column, value⟩] }

variable {column value : String} {connective : Connective} {rows : List Row}
variable {aggregate : Aggregate} {within reached : Operator}

theorem run_comparing (hcolumn : column ≠ "") {op : Operator} (hop : op.isRelational) :
    (comparing connective column op aggregate value).run rows = rows.filter fun row =>
      op.relatesPlaces (row.value column).leadingPlace?
        (aggregate.compute rows column).leadingPlace? := by
  have hall : rows.filter (SearchTerm.allFind []) = rows := List.filter_eq_self.mpr fun _ _ => rfl
  have hrun : (comparing connective column op aggregate value).run rows =
      rows.filter (keeps (comparing connective column op aggregate value) rows) := by
    rw [run, filtered_searched_eq]
    rfl
  rw [hrun]
  congr 1
  funext row
  have hkeeps : keeps (comparing connective column op aggregate value) rows row =
      op.holds (row.value column) (aggregate.compute rows column) := by
    simp only [keeps, comparing, hall, SearchTerm.allFind, List.all_nil, Bool.true_and, chainHolds,
      List.foldl_nil, Condition.denote, Condition.leftCell, Condition.rightCell, Operand.cell,
      Condition.hasRightOperand, Option.isSome_some, Bool.true_or, hcolumn, if_true, if_false]
  rw [hkeeps, Operator.holds_of_isRelational hop, Operator.relates_eq]

/-- Against an extreme, `within` holds of every reading, and `reached` of those at its place. -/
theorem relatesPlaces_extreme (htrim : Text.trim column.toList = column.toList)
    (h : (aggregate, within, reached) ∈ Aggregate.extremes) {row : Row} (hrow : row ∈ rows) :
    within.relatesPlaces (row.value column).leadingPlace?
          (aggregate.compute rows column).leadingPlace? =
        (row.value column).leadingNumber?.isSome ∧
      (reached.relatesPlaces (row.value column).leadingPlace?
          (aggregate.compute rows column).leadingPlace? ↔
        ∃ place, (row.value column).leadingPlace? = some place ∧
          (aggregate.compute rows column).leadingPlace? = some place) := by
  cases hplace : (row.value column).leadingPlace? with
  | none =>
      rw [Cell.leadingPlace?_eq_none_iff.mp hplace]
      simp [Operator.relatesPlaces]
  | some p =>
      have hp : p ∈ Row.places column rows := List.mem_filterMap.mpr ⟨row, hrow, hplace⟩
      obtain ⟨x, hx, -⟩ := Cell.leadingPlace?_eq_some_iff.mp hplace
      obtain ⟨bound, hbound, hall⟩ := Aggregate.exists_isBound htrim (List.ne_nil_of_mem hp) h
      rw [hbound, hx]
      refine ⟨hall.within p hp, (hall.reached p hp).trans ?_⟩
      simp [eq_comm]

theorem run_comparing_within (hcolumn : column ≠ "")
    (htrim : Text.trim column.toList = column.toList)
    (h : (aggregate, within, reached) ∈ Aggregate.extremes) :
    (comparing connective column within aggregate value).run rows =
      rows.filter fun row => (row.value column).leadingNumber?.isSome := by
  rw [run_comparing hcolumn (Aggregate.isRelational_of_mem_extremes h).1]
  exact List.filter_congr fun row hrow => (relatesPlaces_extreme htrim h hrow).1

theorem mem_run_comparing_reached (hcolumn : column ≠ "")
    (htrim : Text.trim column.toList = column.toList)
    (h : (aggregate, within, reached) ∈ Aggregate.extremes) {row : Row} :
    row ∈ (comparing connective column reached aggregate value).run rows ↔
      row ∈ rows ∧ ∃ place, (row.value column).leadingPlace? = some place ∧
        (aggregate.compute rows column).leadingPlace? = some place := by
  rw [run_comparing hcolumn (Aggregate.isRelational_of_mem_extremes h).2, List.mem_filter]
  exact and_congr_right fun hrow => (relatesPlaces_extreme htrim h hrow).2

/-- An extreme is the reading of some row. -/
theorem run_comparing_reached_ne_nil_iff (hcolumn : column ≠ "")
    (htrim : Text.trim column.toList = column.toList)
    (h : (aggregate, within, reached) ∈ Aggregate.extremes) :
    (comparing connective column reached aggregate value).run rows ≠ [] ↔
      ∃ row ∈ rows, (row.value column).leadingNumber?.isSome := by
  constructor
  · intro hne
    obtain ⟨row, hkept⟩ := List.exists_mem_of_ne_nil _ hne
    obtain ⟨hrow, place, hplace, -⟩ := (mem_run_comparing_reached hcolumn htrim h).mp hkept
    obtain ⟨x, hx, -⟩ := Cell.leadingPlace?_eq_some_iff.mp hplace
    exact ⟨row, hrow, Option.isSome_of_eq_some hx⟩
  · rintro ⟨row, hrow, hsome⟩
    have hne : Row.places column rows ≠ [] := by
      intro hnil
      rw [Row.places_eq_nil_iff.mp hnil row hrow] at hsome
      cases hsome
    obtain ⟨bound, hbound, hall⟩ := Aggregate.exists_isBound htrim hne h
    obtain ⟨best, hbest, hplace⟩ := List.mem_filterMap.mp hall.mem
    exact List.ne_nil_of_mem
      ((mem_run_comparing_reached hcolumn htrim h).mpr ⟨hbest, bound, hplace, hbound⟩)

/-- Compared by `<=` with its greatest or by `>=` with its least number, a column keeps exactly the
rows in which it is read as a number, in order. Turned round, these conditions keep a row if there
is any such row, and all rows that they keep have equal numbers. Where there is none, the aggregate
is an empty cell and nothing is kept. -/
theorem run_comparing_extreme (hcolumn : column ≠ "")
    (htrim : Text.trim column.toList = column.toList) (connective : Connective) (value : String)
    (rows : List Row) : ∀ aggregate within reached,
      (aggregate, within, reached) ∈ [(Aggregate.max, Operator.le, Operator.ge), (.min, .ge, .le)] →
      (comparing connective column within aggregate value).run rows =
          rows.filter (fun row => (row.value column).leadingNumber?.isSome) ∧
        ((comparing connective column reached aggregate value).run rows ≠ [] ↔
          ∃ row ∈ rows, (row.value column).leadingNumber?.isSome) ∧
        (∀ a ∈ (comparing connective column reached aggregate value).run rows,
          ∀ b ∈ (comparing connective column reached aggregate value).run rows,
          ∃ x y, (a.value column).leadingNumber? = some x ∧
            (b.value column).leadingNumber? = some y ∧ x.compare? y = some .eq) ∧
        ((∀ row ∈ rows, (row.value column).leadingNumber? = none) →
          aggregate.compute rows column = .null ∧
            (comparing connective column within aggregate value).run rows = [] ∧
            (comparing connective column reached aggregate value).run rows = []) := by
  intro aggregate within reached h
  have hwithin : (comparing connective column within aggregate value).run rows = _ :=
    run_comparing_within hcolumn htrim h
  have hreached : (comparing connective column reached aggregate value).run rows ≠ [] ↔ _ :=
    run_comparing_reached_ne_nil_iff hcolumn htrim h
  refine ⟨hwithin, hreached, fun a ha b hb => ?_, fun hnone => ⟨?_, ?_, ?_⟩⟩
  · obtain ⟨-, p, hp, hbound⟩ := (mem_run_comparing_reached hcolumn htrim h).mp ha
    obtain ⟨-, q, hq, hbound'⟩ := (mem_run_comparing_reached hcolumn htrim h).mp hb
    obtain rfl : p = q := Option.some.inj (hbound.symm.trans hbound')
    obtain ⟨x, hx, hxp⟩ := Cell.leadingPlace?_eq_some_iff.mp hp
    obtain ⟨y, hy, hyp⟩ := Cell.leadingPlace?_eq_some_iff.mp hq
    exact ⟨x, y, hx, hy, by rw [Number.compare?_eq hxp hyp, compare_eq_iff_eq.mpr rfl]⟩
  · exact Aggregate.compute_of_readings_eq_nil
      ((Aggregate.readings_eq_nil_iff htrim).mpr (Row.places_eq_nil_iff.mpr hnone)) aggregate
  · rw [hwithin, List.filter_eq_nil_iff]
    intro row hrow
    rw [hnone row hrow]
    exact Bool.false_ne_true
  · by_contra hne
    obtain ⟨row, hrow, hsome⟩ := hreached.mp hne
    rw [hnone row hrow] at hsome
    cases hsome

/-- The least of `30 units` and the two zeros is a zero, and both zeros reach it. -/
theorem run_comparing_extreme_zeros :
    "n" ≠ "" ∧ Text.trim "n".toList = "n".toList ∧
      (Aggregate.min, Operator.ge, Operator.le) ∈
        [(Aggregate.max, Operator.le, Operator.ge), (.min, .ge, .le)] ∧
      (comparing .and "n" .ge .min "").run [.ofList [("n", .text "30 units")],
          .ofList [("n", .text "n/a")], .ofList [("n", .number .negativeZero)],
          .ofList [("n", .number .zero)]] =
        [.ofList [("n", .text "30 units")], .ofList [("n", .number .negativeZero)],
          .ofList [("n", .number .zero)]] ∧
      (comparing .and "n" .le .min "").run [.ofList [("n", .text "30 units")],
          .ofList [("n", .text "n/a")], .ofList [("n", .number .negativeZero)],
          .ofList [("n", .number .zero)]] ≠ [] ∧
      Aggregate.compute .min [.ofList [("n", .text "n/a")]] "n" = .null ∧
      (comparing .and "n" .le .min "").run [.ofList [("n", .text "n/a")]] = [] := by
  have hcolumn : "n" ≠ "" := by decide
  have htrim : Text.trim "n".toList = "n".toList := by decide
  have hmin : (Aggregate.min, Operator.ge, Operator.le) ∈
      [(Aggregate.max, Operator.le, Operator.ge), (.min, .ge, .le)] := by decide
  obtain ⟨hwithin, hreached, -, -⟩ := run_comparing_extreme hcolumn htrim .and ""
    [.ofList [("n", .text "30 units")], .ofList [("n", .text "n/a")],
      .ofList [("n", .number .negativeZero)], .ofList [("n", .number .zero)]] _ _ _ hmin
  obtain ⟨-, -, -, hnone⟩ := run_comparing_extreme hcolumn htrim .and ""
    [.ofList [("n", .text "n/a")]] _ _ _ hmin
  obtain ⟨hnull, -, hempty⟩ := hnone (by decide +kernel)
  refine ⟨hcolumn, htrim, hmin, hwithin.trans (by decide +kernel), hreached.mpr ?_, hnull, hempty⟩
  exact ⟨_, List.mem_cons_self, by decide +kernel⟩

end Query

end TableQuery
