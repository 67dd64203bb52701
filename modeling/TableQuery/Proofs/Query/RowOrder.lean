import TableQuery.Proofs.Cell.Alike
import TableQuery.Proofs.Cell.Reading
import TableQuery.Proofs.Query.Narrowing

/-!
# The order of the table does not decide which rows are found

A least and a greatest number are found from the left, and of two zeros the one
that comes first is taken. Only the place of the result on the number line is
the same for every order of the rows: the places are integers, on which minimum
and maximum commute, and no reading is without a place. This is enough, because
no operator sees more of a number than its place. Sums and averages are rounded
at every step and do depend on the order.
-/

namespace TableQuery

namespace Number

variable {x y : Number} {a b : Int}

theorem place_min (hx : x.place = some a) (hy : y.place = some b) :
    (x.min y).place = some (Min.min a b) := by
  have hmin : x.min y = if y.compare? x == some .lt then y else x := by
    obtain ⟨_, _, rfl⟩ := exists_eq_signed hx
    obtain ⟨_, _, rfl⟩ := exists_eq_signed hy
    rfl
  rw [hmin, compare?_eq hy hx]
  by_cases hlt : b < a
  · simp [compare_lt_iff_lt.mpr hlt, hlt.le, hy]
  · simp [hlt, hx, compare_lt_iff_lt, not_lt.mp hlt]

theorem place_max (hx : x.place = some a) (hy : y.place = some b) :
    (x.max y).place = some (Max.max a b) := by
  have hmax : x.max y = if y.compare? x == some .gt then y else x := by
    obtain ⟨_, _, rfl⟩ := exists_eq_signed hx
    obtain ⟨_, _, rfl⟩ := exists_eq_signed hy
    rfl
  rw [hmax, compare?_eq hy hx]
  by_cases hgt : a < b
  · simp [compare_gt_iff_gt.mpr hgt, hgt.le, hy]
  · simp [hgt, hx, compare_gt_iff_gt, not_lt.mp hgt]

/-- If the operation commutes on places, the order of the list does not count. -/
theorem place_foldl_perm {f : Number → Number → Number} {g : Int → Int → Int}
    [RightCommutative g]
    (hf : ∀ {x y a b}, x.place = some a → y.place = some b → (f x y).place = some (g a b))
    {numbers others : List Number} (hperm : numbers.Perm others)
    (hplaced : ∀ x ∈ numbers, x ≠ .nan) (hx : x.place = some a) :
    (numbers.foldl f x).place = (others.foldl f x).place := by
  have hplaced' : ∀ x ∈ others, x ≠ .nan := fun x hmem => hplaced x (hperm.mem_iff.mpr hmem)
  rw [place_foldl (fun _ _ => hf) hplaced hx, place_foldl (fun _ _ => hf) hplaced' hx,
    (hperm.filterMap place).foldl_eq]

end Number

namespace Aggregate

/-- Whether an aggregate adds numbers up. -/
def adds : Aggregate → Bool
  | .sum | .avg => true
  | _ => false

variable {rows others : List Row} {column : String}

theorem ne_nan_of_mem_readings {x : Number} (h : x ∈ readings column rows) : x ≠ .nan := by
  obtain ⟨row, -, hread⟩ := List.mem_filterMap.mp h
  exact Cell.leadingNumber?_ne_nan hread

theorem compute_of_readings_eq_nil (h : readings column rows = []) (aggregate : Aggregate) :
    aggregate.compute rows column = .null := by
  rw [compute, h]

theorem compute_of_readings_ne_nil (h : readings column rows ≠ []) (aggregate : Aggregate) :
    aggregate.compute rows column =
      ((aggregate.ofReadings? (readings column rows)).map Cell.number).getD .null := by
  obtain ⟨first, rest, hcons⟩ := List.exists_cons_of_ne_nil h
  simp only [compute, hcons]
  cases aggregate.ofReadings? (first :: rest) <;> rfl

/-- No operator tells the aggregates of a table and of the same rows in another order apart. -/
theorem compute_alike {aggregate : Aggregate} (h : ¬aggregate.adds) (hperm : rows.Perm others)
    (column : String) :
    (aggregate.compute rows column).Alike (aggregate.compute others column) := by
  have hreadings : (readings column rows).Perm (readings column others) := hperm.filterMap _
  have hplaced : ∀ x ∈ readings column rows, x ≠ .nan := fun _ => ne_nan_of_mem_readings
  by_cases hnone : readings column rows = []
  · have hnone' : readings column others = [] := (hnone ▸ hreadings).nil_eq.symm
    rw [compute_of_readings_eq_nil hnone, compute_of_readings_eq_nil hnone']
    exact .same _
  · have hsome' : readings column others ≠ [] := fun h => hnone (h ▸ hreadings).eq_nil
    rw [compute_of_readings_ne_nil hnone, compute_of_readings_ne_nil hsome']
    cases aggregate with
    | min => exact .numbers (Number.place_foldl_perm Number.place_min hreadings hplaced rfl)
    | max => exact .numbers (Number.place_foldl_perm Number.place_max hreadings hplaced rfl)
    | sum | avg => exact absurd rfl h
    | unsupported name => exact .same _

end Aggregate

namespace Condition

/-- Whether a condition compares with a sum or an average. -/
def adds (c : Condition) : Bool :=
  c.leftAggregate.any Aggregate.adds || c.rightAggregate.any Aggregate.adds

theorem operand_alike {aggregate : Option Aggregate} (h : ¬aggregate.any Aggregate.adds)
    {domain other : List Row} (hperm : domain.Perm other) (column : String) (row : Row) :
    (Operand.cell aggregate column row domain).Alike (Operand.cell aggregate column row other) := by
  by_cases hcolumn : column = ""
  · simp only [Operand.cell, hcolumn, if_true]
    exact .same _
  · simp only [Operand.cell, hcolumn, if_false]
    cases aggregate with
    | none => exact .same _
    | some aggregate => exact Aggregate.compute_alike (by simpa using h) hperm column

theorem denote_perm {c : Condition} (h : ¬c.adds) {domain other : List Row}
    (hperm : domain.Perm other) (row : Row) : c.denote row domain = c.denote row other := by
  rw [adds, Bool.or_eq_true, not_or] at h
  have hleft : (c.leftCell row domain).Alike (c.leftCell row other) :=
    operand_alike h.1 hperm c.leftColumn row
  have hright : (c.rightCell row domain).Alike (c.rightCell row other) := by
    rw [rightCell, rightCell]
    split
    · exact operand_alike h.2 hperm c.rightColumn row
    · exact .same _
  exact c.operator.holds_congr hleft hright

end Condition

namespace Query

theorem keeps_perm {q : Query} (h : ∀ c ∈ q.conditions, ¬c.adds) {rows others : List Row}
    (hperm : rows.Perm others) : q.keeps rows = q.keeps others := by
  funext row
  have hdomain := hperm.filter (SearchTerm.allFind q.search)
  exact congrArg _ (chainHolds_congr fun c hc => Condition.denote_perm (h c hc) hdomain row)

/-- When no condition compares with a sum or an average, the same rows are found, as often, in
whatever order the table holds its rows. -/
theorem run_perm_run {q : Query} (h : ∀ c ∈ q.conditions, ¬c.adds) {rows others : List Row}
    (hperm : rows.Perm others) : (q.run rows).Perm (q.run others) :=
  calc
    (q.run rows).Perm (rows.filter (q.keeps rows)) := q.run_perm_filter rows
    _ |>.Perm (others.filter (q.keeps others)) := by
      rw [keeps_perm h hperm]
      exact hperm.filter _
    _ |>.Perm (q.run others) := (q.run_perm_filter others).symm

/-- The least number is a negative zero in one order and a positive one in the other, and both zeros
are found in both. -/
theorem run_perm_run_zeros :
    (∀ c ∈ [Condition.mk .and none "n" .eq (some .min) "n" ""], ¬c.adds) ∧
      [OrderedMap.ofList [("n", Cell.number .negativeZero)], .ofList [("n", .number .zero)],
          .ofList [("n", .text "5")]].Perm
        [.ofList [("n", .text "5")], .ofList [("n", .number .zero)],
          .ofList [("n", .number .negativeZero)]] ∧
      (run ⟨[], [⟨.and, none, "n", .eq, some .min, "n", ""⟩], some ⟨"n", .asc⟩⟩
        [.ofList [("n", .number .negativeZero)], .ofList [("n", .number .zero)],
          .ofList [("n", .text "5")]]).Perm
        (run ⟨[], [⟨.and, none, "n", .eq, some .min, "n", ""⟩], some ⟨"n", .asc⟩⟩
          [.ofList [("n", .text "5")], .ofList [("n", .number .zero)],
            .ofList [("n", .number .negativeZero)]]) := by
  have hadds : ∀ c ∈ [Condition.mk .and none "n" .eq (some .min) "n" ""], ¬c.adds := by decide
  have hperm : [OrderedMap.ofList [("n", Cell.number .negativeZero)], .ofList [("n", .number .zero)],
      .ofList [("n", .text "5")]].Perm
      [.ofList [("n", .text "5")], .ofList [("n", .number .zero)],
        .ofList [("n", .number .negativeZero)]] := by decide +kernel
  exact ⟨hadds, hperm, run_perm_run hadds hperm⟩

/-- A sum depends on the order: one is lost beside ten to the sixteenth, unless that has been taken
away before. -/
example :
    run ⟨[], [⟨.and, some .sum, "n", .gt, none, "", "0"⟩], none⟩
        [.ofList [("n", .text "1e16")], .ofList [("n", .text "1")],
          .ofList [("n", .text "-1e16")]] = [] ∧
      (run ⟨[], [⟨.and, some .sum, "n", .gt, none, "", "0"⟩], none⟩
        [.ofList [("n", .text "1e16")], .ofList [("n", .text "-1e16")],
          .ofList [("n", .text "1")]]).length = 3 := by
  decide +kernel

end Query

end TableQuery
