import TableQuery.Proofs.Cell.Order
import TableQuery.Proofs.StableSort
import TableQuery.Query.Sorting

/-!
# Sorting rows is the stable sort by the comparison of rows

`Sorting.sort` reads every key once, stores it beside its row, and turns the
order of the keys round for a descending sort; `Sorting.compare` reads both keys
each time and turns the answer round. The two agree on every mix of cells,
because comparing cells the other way round reverses the answer. The main
statement characterises the sorted rows: with a column to sort by, they are the
only list that `IsStableSort` allows. A direction that is not known makes all
rows tie, so its only stable sort is the table itself.
-/

namespace TableQuery

namespace Sorting

theorem compare_swap (s : Sorting) (a b : Row) : s.compare a b = (s.compare b a).swap := by
  have hkeys : (s.key a).order (s.key b) = ((s.key b).order (s.key a)).swap := Cell.order_swap _ _
  cases hd : s.direction with
  | asc => simp only [compare, hd, Direction.apply, hkeys]
  | desc => simp only [compare, hd, Direction.apply, hkeys]
  | other token => simp only [compare, hd, Direction.apply, Ordering.swap]

theorem compare_isLE_trans (s : Sorting) {a b c : Row} (hab : (s.compare a b).isLE)
    (hbc : (s.compare b c).isLE) : (s.compare a c).isLE := by
  cases hd : s.direction with
  | asc =>
      simp only [compare, hd, Direction.apply] at *
      exact Cell.order_isLE_trans hab hbc
  | desc =>
      simp only [compare, hd, Direction.apply, ← Cell.order_swap] at *
      exact Cell.order_isLE_trans hbc hab
  | other token =>
      simp only [compare, hd, Direction.apply]
      rfl

instance (s : Sorting) : Std.TransCmp s.compare where
  eq_swap := s.compare_swap _ _
  isLE_trans := s.compare_isLE_trans

/-- Keys that are stored beside the rows sort them like keys that are read anew. -/
theorem byKey_eq_mergeSort (le : Cell → Cell → Bool) (s : Sorting) (rows : List Row) :
    byKey le s rows = rows.mergeSort fun a b => le (s.key a) (s.key b) := by
  have hmap := List.map_mergeSort (r := fun a b : Row => le (s.key a) (s.key b))
    (s := fun a b : Cell × Row => le a.1 b.1) (f := fun row => (s.key row, row)) (l := rows)
    fun _ _ _ _ => rfl
  simp [byKey, ← hmap, Function.comp_def]

theorem isActive_iff (s : Sorting) :
    s.isActive ↔ s.column ≠ "" ∧ ∀ token, s.direction ≠ .other token := by
  cases hd : s.direction <;> simp [isActive, hd]

theorem sort_of_not_isActive {s : Sorting} (h : ¬s.isActive) (rows : List Row) :
    s.sort rows = rows := by
  simp [sort, h]

theorem sort_of_isActive {s : Sorting} (h : s.isActive) (rows : List Row) :
    s.sort rows = rows.mergeSort fun a b => s.compare a b != .gt := by
  cases hd : s.direction with
  | asc => simp only [sort, h, hd, if_true, byKey_eq_mergeSort, compare, Direction.apply]
  | desc =>
      simp only [sort, h, hd, if_true, byKey_eq_mergeSort, compare, Direction.apply,
        ← Cell.order_swap]
  | other token => exact absurd hd ((isActive_iff s).mp h |>.2 token)

theorem sort_of_other {s : Sorting} {token : String} (h : s.direction = .other token)
    (rows : List Row) : s.sort rows = rows :=
  sort_of_not_isActive (fun hactive => (s.isActive_iff.mp hactive).2 token h) rows

theorem compare_of_other {s : Sorting} {token : String} (h : s.direction = .other token)
    (a b : Row) : s.compare a b = .eq := by
  simp [compare, h, Direction.apply]

/-- With a column, the sort is `mergeSort` by the comparison, active or not. -/
theorem sort_eq_mergeSort {s : Sorting} (h : s.column ≠ "") (rows : List Row) :
    s.sort rows = rows.mergeSort fun a b => s.compare a b != .gt := by
  by_cases hactive : s.isActive
  · exact sort_of_isActive hactive rows
  · have hother : ∃ token, s.direction = .other token := by
      simpa [isActive_iff, h] using hactive
    obtain ⟨token, hd⟩ := hother
    have hall : rows.Pairwise fun a b => s.compare a b != .gt :=
      List.pairwise_of_forall fun a b => by simp [compare_of_other hd]
    rw [sort_of_other hd, List.mergeSort_of_pairwise hall]

/-- Rows may be removed before sorting or after it. -/
theorem sort_filter (s : Sorting) (p : Row → Bool) (rows : List Row) :
    s.sort (rows.filter p) = (s.sort rows).filter p := by
  by_cases hactive : s.isActive
  · rw [sort_of_isActive hactive, sort_of_isActive hactive]
    exact (IsStableSort.mergeSort (rows.filter p)).unique ((IsStableSort.mergeSort rows).filter p)
  · rw [sort_of_not_isActive hactive, sort_of_not_isActive hactive]

/-- Sorting by a column gives the stable sort by the comparison and nothing else is one; without a
column, or in a direction that is not known, the rows stay as they are. -/
theorem isStableSort_iff_eq_sort (s : Sorting) (rows : List Row) :
    (s.column ≠ "" →
      (s.sort rows = rows.mergeSort fun a b => s.compare a b != .gt) ∧
        ∀ sorted, IsStableSort s.compare rows sorted ↔ sorted = s.sort rows) ∧
      (s.column = "" → s.sort rows = rows) ∧
      ∀ token, s.direction = .other token → s.sort rows = rows := by
  refine ⟨?_, ?_, fun token h => sort_of_other h rows⟩
  · intro h
    have hsort := sort_eq_mergeSort h rows
    have hstable : IsStableSort s.compare rows (s.sort rows) := hsort ▸ .mergeSort rows
    refine ⟨hsort, fun sorted => ⟨fun hs => hs.unique hstable, ?_⟩⟩
    rintro rfl
    exact hstable
  · intro h
    exact sort_of_not_isActive (fun hactive => (s.isActive_iff.mp hactive).1 h) rows

/-- A text that is a number ties with that number, and the tie is kept in a descending sort. -/
theorem isStableSort_numeric_tie_desc :
    "k" ≠ "" ∧
      IsStableSort (compare ⟨"k", .desc⟩)
        [.ofList [("k", .text "2")], .ofList [("k", .number (.ofNat 10))],
          .ofList [("k", .number (.ofNat 2))]]
        [.ofList [("k", .number (.ofNat 10))], .ofList [("k", .text "2")],
          .ofList [("k", .number (.ofNat 2))]] := by
  have hcolumn : "k" ≠ "" := by decide
  refine ⟨hcolumn, (((isStableSort_iff_eq_sort ⟨"k", .desc⟩ _).1 hcolumn).2 _).mpr ?_⟩
  have htext_ten : compare ⟨"k", .desc⟩ (.ofList [("k", .text "2")])
      (.ofList [("k", .number (.ofNat 10))]) = .gt := by decide +kernel
  have htext_two : compare ⟨"k", .desc⟩ (.ofList [("k", .text "2")])
      (.ofList [("k", .number (.ofNat 2))]) = .eq := by decide +kernel
  have hten_two : compare ⟨"k", .desc⟩ (.ofList [("k", .number (.ofNat 10))])
      (.ofList [("k", .number (.ofNat 2))]) = .lt := by decide +kernel
  rw [sort_eq_mergeSort hcolumn]
  simp [List.mergeSort, List.MergeSort.Internal.splitInTwo, htext_ten, htext_two, hten_two]

end Sorting

end TableQuery
