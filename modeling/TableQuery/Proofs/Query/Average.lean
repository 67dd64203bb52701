import TableQuery.Proofs.Number.Mean
import TableQuery.Proofs.Query.LoneRow

/-!
# The average and the extremes

The average of a column is a sum that is rounded at every addition, divided by
the number of its readings. It can leave the range of the readings, by rounding
and when the sum is out of range: the average of three times `0.1` is greater
than `0.1`. What holds is that it lies between the averages of as many copies of
the least and of the greatest reading, and how far these can be off.
-/

namespace TableQuery

open Operator (accepts_ge_iff accepts_le_iff)

namespace Aggregate

variable {column : String} {rows : List Row} {aggregate : Aggregate} {within reached : Operator}

theorem source_source (column : String) : source (source column) = source column := by
  rw [source, source, String.toList_ofList, Text.trim_trim]

theorem readings_source (column : String) (rows : List Row) :
    readings (source column) rows = readings column rows := by
  rw [readings_eq, source_source, ← readings_eq]

theorem compute_source (aggregate : Aggregate) (rows : List Row) (column : String) :
    aggregate.compute rows (source column) = aggregate.compute rows column := by
  rw [compute, compute, readings_source]

theorem trim_source (column : String) :
    Text.trim (source column).toList = (source column).toList :=
  source_eq_self_iff.mp (source_source column)

/-- An extreme of finite readings is a finite number, and all readings are on one side of it. -/
theorem exists_extreme (hne : readings column rows ≠ [])
    (hfinite : ∀ x ∈ readings column rows, x.isFinite)
    (h : (aggregate, within, reached) ∈ extremes) :
    ∃ x : Number, aggregate.compute rows column = .number x ∧ x.isFinite ∧
      ∃ b, x.place = some b ∧ ∀ y ∈ readings column rows, ∃ a, y.place = some a ∧
        within.accepts (compare a b) := by
  have htrim := trim_source column
  have hplaces : (readings column rows).filterMap Number.place = Row.places (source column) rows := by
    rw [← filterMap_place_readings htrim, readings_source]
  have hne' : Row.places (source column) rows ≠ [] := by
    rwa [Ne, ← readings_eq_nil_iff htrim, readings_source]
  obtain ⟨b, hb, hall⟩ := exists_isBound htrim hne' h
  rw [compute_source] at hb
  obtain ⟨x, hx⟩ : ∃ x, aggregate.compute rows column = .number x := by
    rw [compute_of_readings_ne_nil hne]
    simp only [extremes, List.mem_cons, List.not_mem_nil, or_false, Prod.mk.injEq] at h
    rcases h with ⟨rfl, -, -⟩ | ⟨rfl, -, -⟩ <;> exact ⟨_, rfl⟩
  rw [hx, Cell.leadingPlace?_number] at hb
  rw [← hplaces] at hall
  refine ⟨x, hx, ?_, b, hb, fun y hy => ?_⟩
  · obtain ⟨y, hy, hplace⟩ := List.mem_filterMap.mp hall.mem
    exact (Number.isFinite_iff_place hb).mpr ((Number.isFinite_iff_place hplace).mp (hfinite y hy))
  · obtain ⟨a, ha⟩ := Number.exists_place_eq (ne_nan_of_mem_readings hy)
    exact ⟨a, ha, hall.within a (List.mem_filterMap.mpr ⟨y, hy, ha⟩)⟩

/-- Finite readings lie between their extremes, which are finite. -/
theorem exists_extremes (hne : readings column rows ≠ [])
    (hfinite : ∀ x ∈ readings column rows, x.isFinite) :
    ∃ least greatest : Number, Aggregate.min.compute rows column = .number least ∧
      Aggregate.max.compute rows column = .number greatest ∧ least.isFinite ∧ greatest.isFinite ∧
      ∀ x ∈ readings column rows, x.isFinite ∧ least.AtMost 0 x ∧ x.AtMost 0 greatest := by
  have hmin : (Aggregate.min, Operator.ge, Operator.le) ∈ extremes := by decide
  have hmax : (Aggregate.max, Operator.le, Operator.ge) ∈ extremes := by decide
  obtain ⟨least, hleast, hleastFinite, low, hlow, habove⟩ := exists_extreme hne hfinite hmin
  obtain ⟨greatest, hgreatest, hgreatestFinite, high, hhigh, hbelow⟩ :=
    exists_extreme hne hfinite hmax
  refine ⟨least, greatest, hleast, hgreatest, hleastFinite, hgreatestFinite, fun x hx => ?_⟩
  obtain ⟨a, ha, hge⟩ := habove x hx
  obtain ⟨b, hb, hle⟩ := hbelow x hx
  rw [accepts_ge_iff] at hge
  rw [accepts_le_iff] at hle
  exact ⟨hfinite x hx, ⟨low, a, hlow, ha, by omega⟩, ⟨b, high, hb, hhigh, by omega⟩⟩

theorem compute_avg (hne : readings column rows ≠ []) :
    Aggregate.avg.compute rows column = .number (.mean (readings column rows)) :=
  compute_of_readings_ne_nil hne .avg

/-- A column reaches its average exactly if its greatest number does. -/
theorem run_comparing_avg_ne_nil_iff (hcolumn : column ≠ "")
    (htrim : Text.trim column.toList = column.toList) {greatest average : Number}
    (hgreatest : Aggregate.max.compute rows column = .number greatest)
    (havg : Aggregate.avg.compute rows column = .number average)
    (connective : Connective) (value : String) :
    (Query.comparing connective column .ge .avg value).run rows ≠ [] ↔
      average.AtMost 0 greatest := by
  have hne : Row.places column rows ≠ [] := by
    intro hnil
    rw [compute_of_readings_eq_nil ((readings_eq_nil_iff htrim).mpr hnil)] at hgreatest
    exact nomatch hgreatest
  obtain ⟨b, hb, hall⟩ := exists_isBound htrim hne
    (by decide : (Aggregate.max, Operator.le, Operator.ge) ∈ extremes)
  rw [hgreatest, Cell.leadingPlace?_number] at hb
  have hkept : ∀ row : Row, Operator.ge.relatesPlaces (row.value column).leadingPlace?
      (Aggregate.avg.compute rows column).leadingPlace? ↔
        ∃ p a, (row.value column).leadingPlace? = some p ∧ average.place = some a ∧ a ≤ p := by
    intro row
    rw [havg, Cell.leadingPlace?_number]
    cases (row.value column).leadingPlace? <;> cases average.place <;>
      simp [Operator.relatesPlaces, accepts_ge_iff]
  rw [Query.run_comparing hcolumn rfl, Ne, List.filter_eq_nil_iff]
  simp only [hkept, not_forall, not_not]
  constructor
  · rintro ⟨row, hrow, p, a, hp, ha, hle⟩
    have hp' : p ≤ b :=
      accepts_le_iff.mp (hall.within p (List.mem_filterMap.mpr ⟨row, hrow, hp⟩))
    exact ⟨a, b, ha, hb, by omega⟩
  · rintro ⟨a, b', ha, hb', hle⟩
    obtain rfl : b = b' := Option.some.inj (hb.symm.trans hb')
    obtain ⟨row, hrow, hp⟩ := List.mem_filterMap.mp hall.mem
    exact ⟨row, hrow, b, a, hp, ha, by simpa using hle⟩

/-- The average of finite readings is a number between the averages of as many copies of the least
and of the greatest reading. Such an average of copies is the number itself if all multiples of it,
up to the last, are numbers; up to `2 ^ 52` copies, whose sum is finite, it is fewer numbers away
than there are copies. The column reaches its average in some row exactly if the average is at most
its greatest number. -/
theorem compute_avg_between (hlength : rows.length < 2 ^ 64) (hne : readings column rows ≠ [])
    (hfinite : ∀ x ∈ readings column rows, x.isFinite) {n : Nat}
    (hn : (readings column rows).length = n) :
    ∃ least greatest average : Number,
      (Aggregate.min.compute rows column = .number least ∧
        Aggregate.max.compute rows column = .number greatest ∧
        Aggregate.avg.compute rows column = .number average) ∧
      (Number.mean (.replicate n least)).AtMost 0 average ∧
      average.AtMost 0 (.mean (.replicate n greatest)) ∧
      (n ≤ 2 ^ 52 → (least.HasMultiples n → least.AtMost 0 average) ∧
        (greatest.HasMultiples n → average.AtMost 0 greatest) ∧
        ((Number.sum (.replicate n least)).isFinite → least.AtMost (n - 1) average) ∧
        ((Number.sum (.replicate n greatest)).isFinite → average.AtMost (n - 1) greatest)) ∧
      (column ≠ "" → Text.trim column.toList = column.toList → ∀ connective value,
        ((Query.comparing connective column .ge .avg value).run rows ≠ [] ↔
          average.AtMost 0 greatest)) := by
  obtain ⟨least, greatest, hleast, hgreatest, hleastFinite, hgreatestFinite, hall⟩ :=
    exists_extremes hne hfinite
  have hpos : 0 < n := hn ▸ List.length_pos_iff.mpr hne
  have hcount : (readings column rows).length < 2 ^ 64 :=
    (List.length_filterMap_le _ rows).trans_lt hlength
  obtain ⟨hlow, hhigh⟩ := Number.mean_between hne hcount hleastFinite hgreatestFinite hall
  rw [hn] at hlow hhigh
  refine ⟨least, greatest, _, ⟨hleast, hgreatest, compute_avg hne⟩, hlow, hhigh, fun hfew => ?_,
    fun hcolumn htrim => run_comparing_avg_ne_nil_iff hcolumn htrim hgreatest (compute_avg hne)⟩
  refine ⟨fun h => ?_, fun h => ?_, fun h => ?_, fun h => ?_⟩
  · exact (Number.mean_replicate_near hleastFinite hpos hfew (.inl ⟨rfl, h⟩)).1.trans hlow
  · exact hhigh.trans (Number.mean_replicate_near hgreatestFinite hpos hfew (.inl ⟨rfl, h⟩)).2
  · exact (Number.mean_replicate_near hleastFinite hpos hfew (.inr ⟨rfl, h⟩)).1.trans hlow
  · simpa using
      hhigh.trans (Number.mean_replicate_near hgreatestFinite hpos hfew (.inr ⟨rfl, h⟩)).2

/-- Integers whose sum stays within 53 bits reach their average, also among texts. -/
theorem compute_avg_between_integers :
    [OrderedMap.ofList [("n", Cell.number (.ofInt (-10)))], .ofList [("n", .text "20 units")],
        .ofList [("n", .text "n/a")]].length < 2 ^ 64 ∧
      readings "n" [.ofList [("n", .number (.ofInt (-10)))], .ofList [("n", .text "20 units")],
        .ofList [("n", .text "n/a")]] = [.ofInt (-10), .ofInt 20] ∧
      (Query.comparing .and "n" .ge .avg "").run
        [.ofList [("n", .number (.ofInt (-10)))], .ofList [("n", .text "20 units")],
          .ofList [("n", .text "n/a")]] ≠ [] := by
  have hreadings : readings "n" [.ofList [("n", .number (.ofInt (-10)))],
      .ofList [("n", .text "20 units")], .ofList [("n", .text "n/a")]] =
        [.ofInt (-10), .ofInt 20] := by decide +kernel
  have hmax : Aggregate.max.compute [.ofList [("n", .number (.ofInt (-10)))],
      .ofList [("n", .text "20 units")], .ofList [("n", .text "n/a")]] "n" =
        .number (.ofInt 20) := by decide +kernel
  have hfinite : ∀ x ∈ readings "n" [.ofList [("n", .number (.ofInt (-10)))],
      .ofList [("n", .text "20 units")], .ofList [("n", .text "n/a")]], x.isFinite := by
    rw [hreadings]
    decide +kernel
  refine ⟨by decide, hreadings, ?_⟩
  obtain ⟨least, greatest, average, ⟨-, hgreatest, -⟩, -, -, hnear, hreached⟩ :=
    compute_avg_between (by decide) (by rw [hreadings]; exact List.cons_ne_nil _ _) hfinite
      (congrArg List.length hreadings)
  obtain rfl : Number.ofInt 20 = greatest := Cell.number.inj (hmax.symm.trans hgreatest)
  have hbelow := (hnear (by decide)).2.1 (Number.hasMultiples_ofInt (by decide))
  exact (hreached (by decide) (by decide) .and "").mpr hbelow

/-- The average of three equal readings is greater than they are, and no row reaches it. -/
theorem compute_avg_tenths :
    readings "n" (.replicate 3 (.ofList [("n", .number (.signed false (.ofDecimal 1 (-1))))])) =
        .replicate 3 (.signed false (.ofDecimal 1 (-1))) ∧
      (Number.signed false (.ofDecimal 1 (-1))).isFinite ∧
      Aggregate.max.compute
        (.replicate 3 (.ofList [("n", .number (.signed false (.ofDecimal 1 (-1))))])) "n" =
          .number (.signed false (.ofDecimal 1 (-1))) ∧
      Aggregate.avg.compute
        (.replicate 3 (.ofList [("n", .number (.signed false (.ofDecimal 1 (-1))))])) "n" =
          .number (.signed false (.ofDecimal 10000000000000002 (-17))) ∧
      (Number.signed false (.ofDecimal 10000000000000002 (-17))).compare?
        (.signed false (.ofDecimal 1 (-1))) = some .gt ∧
      (Query.comparing .and "n" .ge .avg "").run
        (.replicate 3 (.ofList [("n", .number (.signed false (.ofDecimal 1 (-1))))])) = [] := by
  decide +kernel

end Aggregate

end TableQuery
