import TableQuery.Proofs.Query.Narrowing

/-!
# Running a query on its own result

Without aggregates a query looks at one row at a time: what it keeps are the
sorted rows of the table with those removed that it rejects, whichever other
rows there are. The rows of a result are so kept by a second run, and sorting
them again moves nothing, because rows that are in order are a stable sort of
themselves. With an aggregate this fails, since the second run computes it over
fewer rows.
-/

namespace TableQuery

/-- Rows in the order of a sorting stay in this order when they are sorted again. -/
theorem Sorting.sort_sort (s : Sorting) (rows : List Row) : s.sort (s.sort rows) = s.sort rows := by
  by_cases hactive : s.isActive
  · rw [sort_of_isActive hactive, sort_of_isActive hactive]
    have hordered : (rows.mergeSort fun a b => s.compare a b != .gt).Pairwise
        fun a b => s.compare a b != .gt :=
      List.pairwise_mergeSort IsStableSort.notGt_trans IsStableSort.notGt_total rows
    exact List.mergeSort_of_pairwise hordered
  · rw [sort_of_not_isActive hactive, sort_of_not_isActive hactive]

namespace Query

theorem sorted_sorted (q : Query) (rows : List Row) : q.sorted (q.sorted rows) = q.sorted rows := by
  cases hs : q.sorting with
  | none => simp only [sorted, hs]
  | some s => simp only [sorted, hs, s.sort_sort]

/-- Without aggregates, whether a row is kept does not depend on the table it stands in. -/
theorem keeps_congr {q : Query} (h : ∀ c ∈ q.conditions, ¬c.aggregates) (rows others : List Row) :
    q.keeps rows = q.keeps others := by
  funext row
  exact congrArg _ (chainHolds_of_not_aggregates h row _ _)

/-- A result is the sorted table with the rows removed that are not kept. -/
theorem run_eq_filter_sorted (q : Query) (rows : List Row) :
    q.run rows = (q.sorted rows).filter (q.keeps rows) := by
  rw [run, filtered_searched_eq, sorted_filter]

/-- Running a query again on what it has found, the same rows come out in the same order, as long as
no condition compares with an aggregate that is computed. -/
theorem run_run {q : Query} (h : ∀ c ∈ q.conditions, ¬c.aggregates) (rows : List Row) :
    q.run (q.run rows) = q.run rows := by
  have hsorted : q.sorted (q.run rows) = q.run rows := by
    rw [run_eq_filter_sorted, sorted_filter, sorted_sorted]
  have hkept : (q.run rows).filter (q.keeps rows) = q.run rows := by
    rw [run_eq_filter_sorted, List.filter_filter]
    simp only [Bool.and_self]
  calc q.run (q.run rows)
      = (q.sorted (q.run rows)).filter (q.keeps (q.run rows)) := run_eq_filter_sorted q _
    _ = (q.run rows).filter (q.keeps rows) := by rw [hsorted, keeps_congr h]
    _ = q.run rows := hkept

/-- Keys of every kind, sorted downwards, stay where they are: text, a number that is none, a zero of
either sign and no cell at all. -/
theorem run_run_mixed_keys :
    (∀ c ∈ [Condition.mk .and (some (.unsupported "COUNT")) "k" .gt none "" "1",
        ⟨.or, none, "k", .ne, none, "", "7"⟩], ¬c.aggregates) ∧
      run ⟨[⟨"t", "X"⟩], [⟨.and, some (.unsupported "COUNT"), "k", .gt, none, "", "1"⟩,
          ⟨.or, none, "k", .ne, none, "", "7"⟩], some ⟨"k", .desc⟩⟩
        (run ⟨[⟨"t", "X"⟩], [⟨.and, some (.unsupported "COUNT"), "k", .gt, none, "", "1"⟩,
            ⟨.or, none, "k", .ne, none, "", "7"⟩], some ⟨"k", .desc⟩⟩
          [.ofList [("t", .text "x"), ("k", .number .negativeZero)],
            .ofList [("t", .text "x"), ("k", .number .nan)],
            .ofList [("t", .text "x"), ("k", .text "0")], .ofList [("t", .text "ax")],
            .ofList [("t", .text "x"), ("k", .text "word")]]) =
        run ⟨[⟨"t", "X"⟩], [⟨.and, some (.unsupported "COUNT"), "k", .gt, none, "", "1"⟩,
            ⟨.or, none, "k", .ne, none, "", "7"⟩], some ⟨"k", .desc⟩⟩
          [.ofList [("t", .text "x"), ("k", .number .negativeZero)],
            .ofList [("t", .text "x"), ("k", .number .nan)],
            .ofList [("t", .text "x"), ("k", .text "0")], .ofList [("t", .text "ax")],
            .ofList [("t", .text "x"), ("k", .text "word")]] := by
  have haggregates : ∀ c ∈ [Condition.mk .and (some (.unsupported "COUNT")) "k" .gt none "" "1",
      ⟨.or, none, "k", .ne, none, "", "7"⟩], ¬c.aggregates := by decide
  exact ⟨haggregates, run_run haggregates _⟩

/-- With an aggregate a second run may find less: two of three numbers are below the greatest, and
one of these two is below the greatest of them. -/
example : run ⟨[], [⟨.and, none, "n", .lt, some .max, "n", ""⟩], none⟩
    (run ⟨[], [⟨.and, none, "n", .lt, some .max, "n", ""⟩], none⟩
      [.ofList [("n", .text "3")], .ofList [("n", .text "1")], .ofList [("n", .text "2")]]) =
    [.ofList [("n", .text "1")]] := by decide +kernel

end Query

end TableQuery
