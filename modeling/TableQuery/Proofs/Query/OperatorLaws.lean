import TableQuery.Proofs.Query.Extremes
import TableQuery.Proofs.Query.NumericOrder

/-!
# The laws of the comparison operators

The relational operators see a cell only through its place on the number line.
Two cells that have a place stand before, at or after one another, and the four
operators say which; of a cell without one they say nothing. Equality goes by other
readings: a text is compared with a number as a whole. Where the whole of a text is
a decimal literal, the number at its start is the same, so that cells that are
equal have one place.
-/

namespace TableQuery

namespace Number

theorem numericEq_eq_true_iff {x y : Number} :
    x.numericEq y = true ↔ ∃ p, x.place = some p ∧ y.place = some p := by
  rw [numericEq, compare?]
  cases x.place with
  | none => simp
  | some p =>
      cases y.place with
      | none => simp
      | some q => grind [compare_eq_iff_eq]

theorem numericEq_comm (x y : Number) : x.numericEq y = y.numericEq x := by
  rw [Bool.eq_iff_iff, numericEq_eq_true_iff, numericEq_eq_true_iff]
  simp only [and_comm]

end Number

namespace Cell

theorem looseEq_comm (a b : Cell) : a.looseEq b = b.looseEq a := by
  cases a with
  | null => cases b <;> rfl
  | text s =>
      cases b with
      | null | number => rfl
      | text t => exact Bool.beq_comm
  | number m =>
      cases b with
      | null | text => rfl
      | number n => exact m.numericEq_comm n

theorem leadingPlace?_isSome (cell : Cell) :
    cell.leadingPlace?.isSome = cell.leadingNumber?.isSome := by
  rw [Bool.eq_iff_iff, Option.isSome_iff_ne_none, Option.isSome_iff_ne_none, ne_eq, ne_eq,
    leadingPlace?_eq_none_iff]

/-- A number equals a text that is a decimal literal only if both have one place. -/
theorem exists_place_of_looseEq {n x : Number} {s : String} (h : (text s).interpret = number x)
    (heq : (number n).looseEq (text s)) :
    ∃ p, (number n).leadingPlace? = some p ∧ (text s).leadingPlace? = some p := by
  have hloose : Number.ofLooseText s.toList = x :=
    Number.ofLooseText_eq (interpret_text_eq_number_iff.mp h)
  rw [looseEq, hloose] at heq
  obtain ⟨p, hn, hx⟩ := Number.numericEq_eq_true_iff.mp heq
  exact ⟨p, by rw [leadingPlace?_number, hn], by rw [leadingPlace?_of_interpret h, hx]⟩

end Cell

namespace Operator

/-- What two cells answer to the relational operators when they compare in a given way. -/
def Answers (o : Ordering) (a b : Cell) : Prop :=
  match o with
  | .lt => holds .lt a b
  | .eq => holds .le a b ∧ holds .ge a b
  | .gt => holds .gt a b

variable {a b c : Cell} {p q : Int}

theorem holds_iff_exists {op : Operator} (h : op.isRelational) :
    op.holds a b ↔ ∃ p q, a.leadingPlace? = some p ∧ b.leadingPlace? = some q ∧
      op.accepts (compare p q) := by
  rw [holds_of_isRelational h, relates_eq]
  cases a.leadingPlace? with
  | none => simp [relatesPlaces]
  | some p =>
      cases b.leadingPlace? with
      | none => simp [relatesPlaces]
      | some q => simp [relatesPlaces]

theorem holds_eq_accepts {op : Operator} (h : op.isRelational) (ha : a.leadingPlace? = some p)
    (hb : b.leadingPlace? = some q) : op.holds a b = op.accepts (compare p q) := by
  rw [holds_of_isRelational h, relates_eq, ha, hb]
  rfl

theorem holds_lt_iff : holds .lt a b ↔
    ∃ p q, a.leadingPlace? = some p ∧ b.leadingPlace? = some q ∧ p < q := by
  rw [holds_iff_exists rfl]
  simp only [accepts, beq_iff_eq, compare_lt_iff_lt]

theorem holds_le_iff : holds .le a b ↔
    ∃ p q, a.leadingPlace? = some p ∧ b.leadingPlace? = some q ∧ p ≤ q := by
  rw [holds_iff_exists rfl]
  simp only [accepts_le_iff]

theorem holds_lt_eq_gt (a b : Cell) : holds .lt a b = holds .gt b a := by
  rw [Bool.eq_iff_iff, holds_lt_iff, holds_iff_exists rfl]
  simp only [accepts, beq_iff_eq, compare_gt_iff_gt]
  grind

theorem holds_le_eq_ge (a b : Cell) : holds .le a b = holds .ge b a := by
  rw [Bool.eq_iff_iff, holds_le_iff, holds_iff_exists rfl]
  simp only [accepts_ge_iff]
  grind

theorem holds_lt_of_lt_of_le (hab : holds .lt a b) (hbc : holds .le b c) : holds .lt a c := by
  obtain ⟨p, q, hp, hq, hlt⟩ := holds_lt_iff.mp hab
  obtain ⟨q', r, hq', hr, hle⟩ := holds_le_iff.mp hbc
  obtain rfl : q = q' := Option.some.inj (hq.symm.trans hq')
  exact holds_lt_iff.mpr ⟨p, r, hp, hr, hlt.trans_le hle⟩

theorem holds_le_of_lt (h : holds .lt a b) : holds .le a b := by
  obtain ⟨p, q, hp, hq, hlt⟩ := holds_lt_iff.mp h
  exact holds_le_iff.mpr ⟨p, q, hp, hq, hlt.le⟩

theorem holds_le_ge_of_leadingPlace?_eq (ha : a.leadingPlace? = some p)
    (hb : b.leadingPlace? = some p) : holds .le a b ∧ holds .ge a b :=
  ⟨holds_le_iff.mpr ⟨p, p, ha, hb, le_rfl⟩,
    (holds_le_eq_ge b a).symm.trans (holds_le_iff.mpr ⟨p, p, hb, ha, le_rfl⟩)⟩

theorem answers_iff (ha : a.leadingPlace? = some p) (hb : b.leadingPlace? = some q)
    (o : Ordering) : Answers o a b ↔ compare p q = o := by
  obtain ⟨hlt, heq, hgt⟩ := eq_iff_accepts (compare p q)
  cases o with
  | lt => rw [hlt, Answers, holds_eq_accepts rfl ha hb]
  | eq => rw [heq, Answers, holds_eq_accepts rfl ha hb, holds_eq_accepts rfl ha hb]
  | gt => rw [hgt, Answers, holds_eq_accepts rfl ha hb]

theorem accepts_eq_not (o : Ordering) :
    accepts .le o = !accepts .gt o ∧ accepts .ge o = !accepts .lt o := by
  cases o <;> decide

/-- The operators are coherent on all cells. Equality is symmetric and `!=` is its complement; the
relational operators turn round with their operands. Cells that both start with a number answer in
exactly one of three ways, and of other cells no relational operator holds. Chains with a `<` in
them hold from end to end. An unknown operator never holds. A number that equals a text whose whole
is a decimal literal also compares as equal with it. -/
theorem operators_coherent :
    (∀ a b : Cell, holds .eq a b = holds .eq b a ∧ holds .ne a b = !holds .eq a b) ∧
      (∀ a b : Cell, holds .lt a b = holds .gt b a ∧ holds .le a b = holds .ge b a) ∧
      (∀ a b : Cell, a.leadingNumber?.isSome → b.leadingNumber?.isSome →
        (∃! o, Answers o a b) ∧ holds .le a b = !holds .gt a b ∧
          holds .ge a b = !holds .lt a b) ∧
      (∀ a b : Cell, ¬(a.leadingNumber?.isSome ∧ b.leadingNumber?.isSome) →
        ∀ op : Operator, op.isRelational → op.holds a b = false) ∧
      (∀ a b c : Cell, holds .lt a b → holds .lt b c ∨ holds .le b c → holds .lt a c) ∧
      (∀ (token : String) (a b : Cell), holds (.unknown token) a b = false) ∧
      ∀ (n x : Number) (s : String), (Cell.text s).interpret = .number x →
        (holds .eq (.number n) (.text s) →
          holds .le (.number n) (.text s) ∧ holds .ge (.number n) (.text s)) ∧
        (holds .eq (.text s) (.number n) →
          holds .le (.text s) (.number n) ∧ holds .ge (.text s) (.number n)) := by
  refine ⟨fun a b => ⟨a.looseEq_comm b, rfl⟩, fun a b => ⟨holds_lt_eq_gt a b, holds_le_eq_ge a b⟩,
    ?_, ?_, ?_, fun token a b => rfl, ?_⟩
  · intro a b ha hb
    rw [← Cell.leadingPlace?_isSome, Option.isSome_iff_exists] at ha hb
    obtain ⟨p, hp⟩ := ha
    obtain ⟨q, hq⟩ := hb
    obtain ⟨hle, hge⟩ := accepts_eq_not (compare p q)
    refine ⟨⟨compare p q, (answers_iff hp hq _).mpr rfl, fun o h => ?_⟩, ?_, ?_⟩
    · exact ((answers_iff hp hq o).mp h).symm
    · rw [holds_eq_accepts rfl hp hq, holds_eq_accepts rfl hp hq, hle]
    · rw [holds_eq_accepts rfl hp hq, holds_eq_accepts rfl hp hq, hge]
  · intro a b hnone op hop
    rw [← Cell.leadingPlace?_isSome, ← Cell.leadingPlace?_isSome] at hnone
    rw [← Bool.not_eq_true, holds_iff_exists hop]
    rintro ⟨p, q, hp, hq, -⟩
    exact hnone ⟨hp ▸ rfl, hq ▸ rfl⟩
  · rintro a b c hab (hbc | hbc)
    · exact holds_lt_of_lt_of_le hab (holds_le_of_lt hbc)
    · exact holds_lt_of_lt_of_le hab hbc
  · intro n x s hread
    constructor
    · intro heq
      obtain ⟨p, hn, hs⟩ := Cell.exists_place_of_looseEq hread heq
      exact holds_le_ge_of_leadingPlace?_eq hn hs
    · intro heq
      -- Equality reads the text in the same way on either side.
      have hswap : Cell.looseEq (.number n) (.text s) := (Cell.looseEq_comm _ _).trans heq
      obtain ⟨p, hn, hs⟩ := Cell.exists_place_of_looseEq hread hswap
      exact holds_le_ge_of_leadingPlace?_eq hs hn

/-- Between a text that starts with a number and a number, in a chain up to a greater number; and a
text of zero that equals the number of the other sign. -/
theorem operators_coherent_mixed :
    (∃! o, Answers o (.text "3px") (.number (.ofNat 5))) ∧
      holds .lt (.text "3px") (.number .infinity) ∧
      holds .gt (.text "px") (.number .zero) = false ∧
      holds .le (.text " 0e2 ") (.number .negativeZero) := by
  have hread : (Cell.text " 0e2 ").interpret = .number .zero ∧
      holds .eq (.text " 0e2 ") (.number .negativeZero) ∧
      (Cell.text "3px").leadingNumber?.isSome ∧ (Cell.text "px").leadingNumber? = none ∧
      holds .lt (.text "3px") (.number (.ofNat 5)) ∧
      holds .le (.number (.ofNat 5)) (.number .infinity) := by decide +kernel
  obtain ⟨hzero, heq, hsome, hnone, hlt, hle⟩ := hread
  obtain ⟨-, -, htri, hother, hchain, -, hliteral⟩ := operators_coherent
  exact ⟨(htri _ _ hsome rfl).1, hchain _ _ _ hlt (.inr hle),
    hother _ _ (fun h => by rw [hnone] at h; cases h.1) .gt rfl,
    ((hliteral _ _ _ hzero).2 heq).1⟩

end Operator

end TableQuery
