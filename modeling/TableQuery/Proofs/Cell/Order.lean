import TableQuery.Cell.Order

/-!
# The order of cells is a total preorder

`Number.sortCompare` compares places on the number line, with values that are
not a number behind all places, and `Cell.order` compares kinds first. Both are
given to the library as `Std.TransCmp`: comparing the other way round reverses
the answer, and being less or equal is transitive. Distinct cells can compare
equal (the two zeros do), so neither is an order on cells themselves.
-/

namespace TableQuery

namespace Number

theorem sortCompare_swap (x y : Number) : x.sortCompare y = (y.sortCompare x).swap := by
  cases hx : x.place <;> cases hy : y.place <;> simp only [sortCompare, hx, hy]
  case none.none => rfl
  case none.some => rfl
  case some.none => rfl
  case some.some => exact Std.OrientedOrd.eq_swap

theorem sortCompare_isLE_trans {x y z : Number} (hxy : (x.sortCompare y).isLE)
    (hyz : (y.sortCompare z).isLE) : (x.sortCompare z).isLE := by
  -- Only three places need the order of the integers; a missing place decides the comparison alone.
  cases hx : x.place <;> cases hy : y.place <;> cases hz : z.place <;>
    simp only [sortCompare, hx, hy, hz] at *
  case some.some.some => exact Std.TransOrd.isLE_trans hxy hyz
  all_goals first | contradiction | rfl

instance : Std.TransCmp Number.sortCompare where
  eq_swap := sortCompare_swap _ _
  isLE_trans := sortCompare_isLE_trans

end Number

namespace Cell

theorem order_swap (a b : Cell) : a.order b = (b.order a).swap := by
  cases a with
  | text s =>
      cases b with
      | text t => exact Std.OrientedOrd.eq_swap (a := s)
      | number n => rfl
      | null => rfl
  | number m =>
      cases b with
      | text t => rfl
      | number n => exact m.sortCompare_swap n
      | null => rfl
  | null => cases b <;> rfl

theorem order_isLE_trans {a b c : Cell} (hab : (a.order b).isLE) (hbc : (b.order c).isLE) :
    (a.order c).isLE := by
  cases a <;> cases b <;> cases c
  case text.text.text r s t => exact Std.TransOrd.isLE_trans (a := r) (b := s) hab hbc
  case number.number.number => exact Number.sortCompare_isLE_trans hab hbc
  all_goals first | contradiction | rfl

instance : Std.TransCmp Cell.order where
  eq_swap := order_swap _ _
  isLE_trans := order_isLE_trans

end Cell

end TableQuery
