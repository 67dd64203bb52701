import TableQuery.Proofs.Query.Denotation
import TableQuery.Query.Flags

/-!
# Flags act like a search that comes first

Search terms that are added to a query by flags are appended to its own, and yet
the result is that of two queries, one after the other: a search by the flags
alone, and then the query, with the sorting of the flags if there is one. The
aggregates of the query so range over what both searches leave. It does not
matter in which order search terms stand, nor how often.
-/

namespace TableQuery

namespace SearchTerm

theorem allFind_append (terms others : List SearchTerm) (row : Row) :
    allFind (terms ++ others) row = (allFind terms row && allFind others row) :=
  List.all_append

theorem allFind_iff {terms : List SearchTerm} {row : Row} :
    allFind terms row ↔ ∀ term ∈ terms, term.finds row :=
  List.all_eq_true

/-- Only which terms there are counts. -/
theorem allFind_congr {terms others : List SearchTerm} (h : ∀ term, term ∈ terms ↔ term ∈ others) :
    allFind terms = allFind others := by
  funext row
  rw [Bool.eq_iff_iff, allFind_iff, allFind_iff]
  simp only [h]

end SearchTerm

namespace Query

/-- A query that only searches finds the rows that all of its terms find. -/
theorem run_search (terms : List SearchTerm) (rows : List Row) :
    run { search := terms } rows = rows.filter (SearchTerm.allFind terms) := by
  rw [run, searched_eq]
  rfl

/-- Terms that are searched by first may as well be appended. -/
theorem searched_filter (q : Query) (terms : List SearchTerm) (rows : List Row) :
    q.searched (rows.filter (SearchTerm.allFind terms)) =
      rows.filter (SearchTerm.allFind (q.search ++ terms)) := by
  rw [searched_eq, List.filter_filter]
  congr 1
  funext row
  exact (SearchTerm.allFind_append ..).symm

/-- Running a query with flags is running a search by the terms of the flags and then the query, by
the sorting of the flags if they have one: conditions and aggregates see only what is found by both.
All that counts about search terms is which there are. -/
theorem run_withFlags (q : Query) (terms : List SearchTerm) (sorting : Option Sorting)
    (rows : List Row) :
    (q.withFlags terms sorting).run rows =
        (sorting.elim q q.withSorting).run (run { search := terms } rows) ∧
      (q.withFlags terms sorting).searched rows = q.searched (run { search := terms } rows) ∧
      ∀ search : List SearchTerm, (∀ term, term ∈ search ↔ term ∈ q.search ++ terms) →
        run { q.withFlags terms sorting with search := search } rows =
          (q.withFlags terms sorting).run rows := by
  have hsearched : (q.withFlags terms sorting).searched rows =
      q.searched (run { search := terms } rows) := by
    rw [run_search, searched_filter, searched_eq]
    rfl
  refine ⟨?_, hsearched, fun search h => ?_⟩
  · rw [run, hsearched]
    cases sorting <;> rfl
  · have hsame : searched { q.withFlags terms sorting with search := search } rows =
        (q.withFlags terms sorting).searched rows := by
      rw [searched_eq, searched_eq, SearchTerm.allFind_congr h]
      rfl
    rw [run, hsame]
    rfl

/-- A term that stands twice and one from a flag, before a comparison with an average, find the same
rows when each stands once and they are turned round. -/
theorem run_withFlags_repeated :
    (∀ term, term ∈ [SearchTerm.mk "b" "y", ⟨"a", "x"⟩] ↔
        term ∈ [SearchTerm.mk "a" "x", ⟨"a", "x"⟩] ++ [⟨"b", "y"⟩]) ∧
      run ⟨[⟨"b", "y"⟩, ⟨"a", "x"⟩], [⟨.and, none, "n", .gt, some .avg, "n", ""⟩], some ⟨"n", .desc⟩⟩
          [.ofList [("a", .text "x"), ("b", .text "y"), ("n", .text "1")]] =
        (withFlags ⟨[⟨"a", "x"⟩, ⟨"a", "x"⟩], [⟨.and, none, "n", .gt, some .avg, "n", ""⟩], none⟩
          [⟨"b", "y"⟩] (some ⟨"n", .desc⟩)).run
          [.ofList [("a", .text "x"), ("b", .text "y"), ("n", .text "1")]] := by
  have hsame : ∀ term, term ∈ [SearchTerm.mk "b" "y", ⟨"a", "x"⟩] ↔
      term ∈ [SearchTerm.mk "a" "x", ⟨"a", "x"⟩] ++ [⟨"b", "y"⟩] := by
    intro term
    simp [or_comm]
  exact ⟨hsame, (run_withFlags ⟨[⟨"a", "x"⟩, ⟨"a", "x"⟩],
    [⟨.and, none, "n", .gt, some .avg, "n", ""⟩], none⟩ [⟨"b", "y"⟩] (some ⟨"n", .desc⟩) _).2.2 _ hsame⟩

end Query

end TableQuery
