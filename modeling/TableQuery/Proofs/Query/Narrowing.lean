import TableQuery.Proofs.Query.Denotation

/-!
# Narrowing and widening a query

A condition that is added with `and` can only remove rows from a result, one that
is added with `or` can only bring rows in, and another search term removes rows
as long as no aggregate looks at what the search leaves. The rows that stay keep
their order, after sorting too, because rows may as well be removed after they
are sorted: a result is the sorted search result with the conditions applied last.
-/

namespace TableQuery

/-! ## Operands that do not look at other rows -/

/-- Whether an aggregate is computed at all. -/
def Aggregate.isSupported : Aggregate → Bool
  | .unsupported _ => false
  | _ => true

theorem Aggregate.compute_of_not_isSupported {aggregate : Aggregate} (h : ¬aggregate.isSupported)
    (rows : List Row) (column : String) : aggregate.compute rows column = .null := by
  cases aggregate with
  | unsupported name =>
      rw [compute]
      cases readings column rows <;> rfl
  | min | max | sum | avg => exact absurd rfl h

/-- Whether a condition compares with an aggregate that is computed. -/
def Condition.aggregates (c : Condition) : Bool :=
  c.leftAggregate.any Aggregate.isSupported || c.rightAggregate.any Aggregate.isSupported

theorem Operand.cell_congr {aggregate : Option Aggregate}
    (h : ¬aggregate.any Aggregate.isSupported) (column : String) (row : Row)
    (domain other : List Row) : cell aggregate column row domain = cell aggregate column row other := by
  cases aggregate with
  | none => rfl
  | some aggregate =>
      have hunsupported : ¬aggregate.isSupported := by simpa using h
      simp only [cell, Aggregate.compute_of_not_isSupported hunsupported]

theorem Condition.denote_congr {c : Condition} (h : ¬c.aggregates) (row : Row)
    (domain other : List Row) : c.denote row domain = c.denote row other := by
  rw [aggregates, Bool.or_eq_true, not_or] at h
  have hleft := Operand.cell_congr h.1 c.leftColumn row domain other
  have hright := Operand.cell_congr h.2 c.rightColumn row domain other
  simp only [denote, leftCell, rightCell, hleft, hright]

namespace Query

/-- Conditions that mean the same make chains that hold of the same. -/
theorem chainHolds_congr {conditions : List Condition} {row : Row} {domain other : List Row}
    (h : ∀ c ∈ conditions, c.denote row domain = c.denote row other) :
    chainHolds conditions row domain = chainHolds conditions row other := by
  cases conditions with
  | nil => rfl
  | cons first others =>
      rw [List.forall_mem_cons] at h
      rw [chainHolds, chainHolds, h.1]
      refine List.foldl_ext _ _ _ fun held c hc => ?_
      rw [h.2 c hc]

theorem chainHolds_of_not_aggregates {conditions : List Condition}
    (h : ∀ c ∈ conditions, ¬c.aggregates) (row : Row) (domain other : List Row) :
    chainHolds conditions row domain = chainHolds conditions row other :=
  chainHolds_congr fun c hc => Condition.denote_congr (h c hc) row domain other

/-! ## The last condition of a chain -/

theorem chainHolds_append {conditions : List Condition} (hne : conditions ≠ []) (c : Condition)
    (row : Row) (domain : List Row) :
    chainHolds (conditions ++ [c]) row domain =
      c.connective.combine (chainHolds conditions row domain) (c.denote row domain) := by
  cases conditions with
  | nil => exact absurd rfl hne
  | cons first others =>
      rw [List.cons_append, chainHolds, chainHolds, List.foldl_append, List.foldl_cons,
        List.foldl_nil]

/-- With `and`, the whole chain holds only if the chain before it does. -/
theorem chainHolds_of_append_and {conditions : List Condition} {c : Condition}
    (hc : c.connective = .and) {row : Row} {domain : List Row}
    (h : chainHolds (conditions ++ [c]) row domain) : chainHolds conditions row domain := by
  rcases eq_or_ne conditions [] with rfl | hne
  · rfl
  · rw [chainHolds_append hne, hc, Connective.combine, Bool.and_eq_true] at h
    exact h.1

/-- With `or`, the whole chain holds whenever the chain before it does. -/
theorem chainHolds_append_or {conditions : List Condition} (hne : conditions ≠ []) {c : Condition}
    (hc : c.connective = .or) {row : Row} {domain : List Row}
    (h : chainHolds conditions row domain) : chainHolds (conditions ++ [c]) row domain := by
  rw [chainHolds_append hne, hc, Connective.combine, h, Bool.true_or]

/-! ## Removing rows after sorting -/

theorem sorted_filter (q : Query) (p : Row → Bool) (rows : List Row) :
    q.sorted (rows.filter p) = (q.sorted rows).filter p := by
  cases hs : q.sorting with
  | none => simp only [sorted, hs]
  | some s => simp only [sorted, hs, s.sort_filter]

/-- The conditions may be applied to the sorted rows. -/
theorem run_eq_filter (q : Query) (rows : List Row) :
    q.run rows = (q.sorted (q.searched rows)).filter fun row =>
      chainHolds q.conditions row (q.searched rows) := by
  rw [run, filtered_eq, sorted_filter]

theorem searched_withSearch (q : Query) (term : SearchTerm) (rows : List Row) :
    (q.withSearch term).searched rows = (q.searched rows).filter term.finds := by
  rw [searched_eq, searched_eq, List.filter_filter]
  congr 1
  funext row
  simp [withSearch, SearchTerm.allFind, Bool.and_comm]

/-- Without aggregates, a further search term only drops the rows that it does not find. -/
theorem run_withSearch {q : Query} (h : ∀ c ∈ q.conditions, ¬c.aggregates) (term : SearchTerm)
    (rows : List Row) : (q.withSearch term).run rows = (q.run rows).filter term.finds := by
  have hchain : ∀ row, chainHolds q.conditions row ((q.withSearch term).searched rows) =
      chainHolds q.conditions row (q.searched rows) := fun row =>
    chainHolds_of_not_aggregates h row _ _
  have hsorted : (q.withSearch term).sorted ((q.withSearch term).searched rows) =
      (q.sorted (q.searched rows)).filter term.finds := by
    rw [searched_withSearch, ← sorted_filter]
    rfl
  have hconditions : (q.withSearch term).conditions = q.conditions := rfl
  rw [run_eq_filter, run_eq_filter, hsorted, hconditions, List.filter_comm]
  simp only [hchain]

/-- A condition added with `and` leaves a part of the result, in its order; a condition added with
`or` to others leaves the result a part of what comes out; and so does a search term with `and`,
if no condition aggregates. -/
theorem run_sublist (q : Query) (rows : List Row) :
    (∀ c : Condition, c.connective = .and → ((q.withCondition c).run rows).Sublist (q.run rows)) ∧
      (∀ c : Condition, c.connective = .or → q.conditions ≠ [] →
        (q.run rows).Sublist ((q.withCondition c).run rows)) ∧
      ((∀ c ∈ q.conditions, ¬c.aggregates) →
        ∀ term, ((q.withSearch term).run rows).Sublist (q.run rows)) := by
  -- Search and sorting are those of `q`, so the chains are applied to the same sorted rows.
  have hrun (c : Condition) : (q.withCondition c).run rows =
      (q.sorted (q.searched rows)).filter fun row =>
        chainHolds (q.conditions ++ [c]) row (q.searched rows) := run_eq_filter _ rows
  refine ⟨fun c hc => ?_, fun c hc hne => ?_, fun h term => ?_⟩
  · rw [hrun, run_eq_filter]
    exact List.monotone_filter_right _ fun _ => chainHolds_of_append_and hc
  · rw [hrun, run_eq_filter]
    exact List.monotone_filter_right _ fun _ => chainHolds_append_or hne hc
  · rw [run_withSearch h]
    exact List.filter_sublist

/-- The query `n > 1`, sorted downwards, is narrowed by `n < 3` and by a search, and widened by an
aggregate. -/
theorem run_sublist_desc :
    (∀ c ∈ [Condition.ofLiteral "n" .gt "1"], ¬c.aggregates) ∧
      (run ⟨[], [.ofLiteral "n" .gt "1", .ofLiteral "n" .lt "3"], some ⟨"n", .desc⟩⟩
          [.ofList [("n", .text "2")], .ofList [("n", .text "12")]]).Sublist
        (run ⟨[], [.ofLiteral "n" .gt "1"], some ⟨"n", .desc⟩⟩
          [.ofList [("n", .text "2")], .ofList [("n", .text "12")]]) ∧
      (run ⟨[], [.ofLiteral "n" .gt "1"], some ⟨"n", .desc⟩⟩
          [.ofList [("n", .text "2")], .ofList [("n", .text "12")]]).Sublist
        (run ⟨[], [.ofLiteral "n" .gt "1",
            ⟨.or, none, "n", .eq, some .max, "n", ""⟩], some ⟨"n", .desc⟩⟩
          [.ofList [("n", .text "2")], .ofList [("n", .text "12")]]) ∧
      (run ⟨[⟨"n", "2"⟩], [.ofLiteral "n" .gt "1"], some ⟨"n", .desc⟩⟩
          [.ofList [("n", .text "2")], .ofList [("n", .text "12")]]).Sublist
        (run ⟨[], [.ofLiteral "n" .gt "1"], some ⟨"n", .desc⟩⟩
          [.ofList [("n", .text "2")], .ofList [("n", .text "12")]]) := by
  have haggregates : ∀ c ∈ [Condition.ofLiteral "n" .gt "1"], ¬c.aggregates := by decide
  obtain ⟨hand, hor, hsearch⟩ :=
    run_sublist ⟨[], [.ofLiteral "n" .gt "1"], some ⟨"n", .desc⟩⟩
      [.ofList [("n", .text "2")], .ofList [("n", .text "12")]]
  exact ⟨haggregates, hand _ rfl, hor ⟨.or, none, "n", .eq, some .max, "n", ""⟩ rfl (by simp),
    hsearch haggregates ⟨"n", "2"⟩⟩

end Query

end TableQuery
