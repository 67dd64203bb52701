import TableQuery.Proofs.Query.Sorting
import TableQuery.Query.Basic

/-!
# Running a query gives what the query means

`Query.run` prepares a needle for every search term and a predicate for every
condition, the predicates once for the rows that the search leaves.
`Query.denote` prepares nothing: it reads every term and both operands of every
condition anew for each row, aggregates included. The two agree because a
prepared operand is resolved to the same cell for every row. The main statement
adds how often each row comes out, so a result holds rows of the table and no
others, and that an empty query changes nothing.
-/

namespace TableQuery

/-- A prepared operand is resolved to the cell that it names, whatever the row. -/
@[simp] theorem Operand.resolve_ofColumn (aggregate : Option Aggregate) (column : String)
    (domain : List Row) (row : Row) :
    (Operand.ofColumn aggregate column domain).resolve row =
      Operand.cell aggregate column row domain := by
  by_cases hc : column = ""
  · simp [Operand.ofColumn, Operand.cell, Operand.resolve, hc]
  · cases aggregate with
    | none => simp [Operand.ofColumn, Operand.cell, Operand.resolve, hc]
    | some aggregate => simp [Operand.ofColumn, Operand.cell, Operand.resolve, hc]

namespace Condition

@[simp] theorem holds_compile (c : Condition) (domain : List Row) (row : Row) :
    (c.compile domain).holds row = c.denote row domain := by
  have hright : (c.compile domain).right.resolve row = c.rightCell row domain := by
    by_cases h : c.hasRightOperand
    · simp [compile, rightCell, h, Operand.resolve_ofColumn]
    · simp [compile, rightCell, h, Operand.resolve]
  have hleft : (c.compile domain).left.resolve row = c.leftCell row domain :=
    Operand.resolve_ofColumn ..
  rw [Predicate.holds, hleft, hright]
  rfl

theorem holds_eq_denote (c : Condition) (row : Row) (domain : List Row) :
    c.holds row domain = c.denote row domain :=
  c.holds_compile domain row

end Condition

/-- Prepared conditions are joined like conditions that are read anew. -/
theorem Predicate.fold_compile (conditions : List Condition) (domain : List Row) (row : Row) :
    Predicate.fold (conditions.map (·.compile domain)) row =
      Query.chainHolds conditions row domain := by
  cases conditions with
  | nil => rfl
  | cons first others =>
      simp only [List.map_cons, Predicate.fold, Query.chainHolds, List.foldl_map,
        Condition.holds_compile]
      rfl

namespace Query

theorem searched_eq (q : Query) (rows : List Row) :
    q.searched rows = rows.filter (SearchTerm.allFind q.search) := by
  simp only [searched, List.all_map]
  rfl

theorem filtered_eq (q : Query) (domain : List Row) :
    q.filtered domain = domain.filter fun row => chainHolds q.conditions row domain := by
  unfold filtered
  cases hc : q.conditions with
  | nil => exact (List.filter_eq_self.mpr fun _ _ => rfl).symm
  | cons first others =>
      simp only [List.isEmpty_cons, Bool.false_eq_true, if_false]
      congr 1
      funext row
      exact Predicate.fold_compile (first :: others) domain row

theorem sorted_eq (q : Query) (rows : List Row) :
    q.sorted rows = match q.sorting.filter Sorting.isActive with
      | some sorting => rows.mergeSort fun a b => sorting.compare a b != .gt
      | none => rows := by
  cases hs : q.sorting with
  | none => simp [sorted, hs]
  | some s =>
      by_cases hactive : s.isActive
      · simp [sorted, hs, Option.filter, hactive, Sorting.sort_of_isActive hactive]
      · simp [sorted, hs, Option.filter, hactive, Sorting.sort_of_not_isActive hactive]

theorem sorted_perm (q : Query) (rows : List Row) : (q.sorted rows).Perm rows := by
  rw [sorted_eq]
  split
  · exact List.mergeSort_perm ..
  · exact List.Perm.refl rows

/-- Whether a query keeps a row of a table. -/
def keeps (q : Query) (rows : List Row) (row : Row) : Bool :=
  SearchTerm.allFind q.search row &&
    chainHolds q.conditions row (rows.filter (SearchTerm.allFind q.search))

/-- The rows that are sorted are those that the query keeps, in the order of the table. -/
theorem filtered_searched_eq (q : Query) (rows : List Row) :
    q.filtered (q.searched rows) = rows.filter (q.keeps rows) := by
  rw [filtered_eq, searched_eq, List.filter_filter]
  congr 1
  funext row
  exact Bool.and_comm ..

theorem run_perm_filter (q : Query) (rows : List Row) :
    (q.run rows).Perm (rows.filter (q.keeps rows)) := by
  rw [← filtered_searched_eq]
  exact q.sorted_perm _

theorem count_run (q : Query) (rows : List Row) (row : Row) :
    (q.run rows).count row = if q.keeps rows row then rows.count row else 0 := by
  rw [(q.run_perm_filter rows).count_eq]
  split
  · next h => exact List.count_filter h
  · next h => exact List.count_eq_zero.mpr fun hmem => h (List.mem_filter.mp hmem).2

theorem run_of_isEmpty {q : Query} (h : q.isEmpty) (rows : List Row) : q.run rows = rows := by
  simp only [isEmpty, Bool.and_eq_true, List.isEmpty_iff] at h
  obtain ⟨⟨hsearch, hconditions⟩, hsorting⟩ := h
  have hactive : q.sorting.filter Sorting.isActive = none := by
    cases hs : q.sorting with
    | none => rfl
    | some s =>
        have hnot : s.isActive = false := by simpa [hs] using hsorting
        simp [Option.filter, hnot]
  have hfind : SearchTerm.allFind [] = fun _ => true := rfl
  rw [run, sorted_eq, hactive, filtered_eq, searched_eq, hsearch, hconditions]
  simp [hfind, chainHolds]

theorem isStableSort_run {q : Query} {s : Sorting} (hs : q.sorting = some s) (hactive : s.isActive)
    (rows : List Row) : IsStableSort s.compare (rows.filter (q.keeps rows)) (q.run rows) := by
  have hrun : q.run rows = s.sort (rows.filter (q.keeps rows)) := by
    rw [run, filtered_searched_eq, sorted, hs]
  rw [hrun, Sorting.sort_of_isActive hactive]
  exact .mergeSort _

/-- A query finds what it means: the rows that every search term finds, then of these the rows of
which the chain of conditions holds with all aggregates over them, then the stable sort. -/
theorem run_eq_denote (q : Query) (rows : List Row) :
    q.run rows = q.denote rows ∧
      (∀ (c : Condition) row domain, c.holds row domain = c.denote row domain) ∧
      (∀ row, (q.run rows).count row = if q.keeps rows row then rows.count row else 0) ∧
      (∀ s, q.sorting = some s → s.isActive →
        IsStableSort s.compare (rows.filter (q.keeps rows)) (q.run rows)) ∧
      (q.isEmpty → q.run rows = rows) := by
  have hdenote : q.run rows = q.denote rows := by
    rw [run, sorted_eq, filtered_eq, searched_eq]
    rfl
  exact ⟨hdenote, Condition.holds_eq_denote, q.count_run rows,
    fun _ hs hactive => isStableSort_run hs hactive rows, fun h => run_of_isEmpty h rows⟩

/-- Two rows found and sorted downwards, and left alone when the sorting has no column. -/
theorem run_sorted_and_unsorted :
    (Sorting.mk "n" .desc).isActive ∧
      IsStableSort (Sorting.compare ⟨"n", .desc⟩)
        [.ofList [("n", .text "10")], .ofList [("n", .text "12")]]
        (run ⟨[⟨"n", "1"⟩], [], some ⟨"n", .desc⟩⟩
          [.ofList [("n", .text "10")], .ofList [("n", .text "2")], .ofList [("n", .text "12")]]) ∧
      isEmpty ⟨[], [], some ⟨"", .desc⟩⟩ ∧
      run ⟨[], [], some ⟨"", .desc⟩⟩ [.ofList [("n", .text "1")], .ofList [("n", .text "2")]] =
        [.ofList [("n", .text "1")], .ofList [("n", .text "2")]] := by
  have hactive : (Sorting.mk "n" .desc).isActive := by decide
  have hempty : isEmpty ⟨[], [], some ⟨"", .desc⟩⟩ := by decide
  refine ⟨hactive, ?_, hempty, (run_eq_denote _ _).2.2.2.2 hempty⟩
  have hkept : List.filter (keeps ⟨[⟨"n", "1"⟩], [], some ⟨"n", .desc⟩⟩
      [.ofList [("n", .text "10")], .ofList [("n", .text "2")], .ofList [("n", .text "12")]])
      [.ofList [("n", .text "10")], .ofList [("n", .text "2")], .ofList [("n", .text "12")]] =
      [.ofList [("n", .text "10")], .ofList [("n", .text "12")]] := by decide +kernel
  exact hkept ▸ (run_eq_denote _ _).2.2.2.1 _ rfl hactive

end Query

end TableQuery
