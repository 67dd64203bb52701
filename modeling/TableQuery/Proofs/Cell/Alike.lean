import TableQuery.Proofs.Number.Arithmetic
import TableQuery.Query.Operator

/-!
# Cells that no operator tells apart

A number takes part in a comparison only through its place on the number line,
where the two zeros are one. So cells that are equal, or are numbers of the same
place, are `Alike`: no operator answers differently when one stands for the
other, on either side, whatever stands across.
-/

namespace TableQuery

namespace Number

variable {x y x' y' : Number}

theorem compare?_congr (hx : x.place = x'.place) (hy : y.place = y'.place) :
    x.compare? y = x'.compare? y' := by
  rw [compare?, compare?, hx, hy]

theorem numericEq_congr (hx : x.place = x'.place) (hy : y.place = y'.place) :
    x.numericEq y = x'.numericEq y' := by
  rw [numericEq, numericEq, compare?_congr hx hy]

end Number

namespace Cell

/-- The same cell, or two numbers of the same place. -/
inductive Alike : Cell → Cell → Prop
  | same (cell : Cell) : Alike cell cell
  | numbers {x y : Number} (h : x.place = y.place) : Alike (.number x) (.number y)

/-- The place of the number at the start of a cell. -/
def leadingPlace? (cell : Cell) : Option Int := cell.leadingNumber?.bind Number.place

@[simp] theorem leadingPlace?_number (x : Number) : (number x).leadingPlace? = x.place := by
  cases x <;> rfl

variable {a b c d : Cell}

theorem leadingPlace?_eq_some_iff {place : Int} : a.leadingPlace? = some place ↔
    ∃ x, a.leadingNumber? = some x ∧ x.place = some place :=
  Option.bind_eq_some_iff

theorem Alike.leadingPlace?_eq (h : Alike a b) : a.leadingPlace? = b.leadingPlace? := by
  cases h with
  | same => rfl
  | numbers hplace => rw [leadingPlace?_number, leadingPlace?_number, hplace]

theorem Alike.looseEq_eq (hab : Alike a b) (hcd : Alike c d) : a.looseEq c = b.looseEq d := by
  cases hab with
  | same =>
      cases hcd with
      | same => rfl
      | numbers hcd =>
          cases a with
          | text s => exact Number.numericEq_congr hcd rfl
          | number x => exact Number.numericEq_congr rfl hcd
          | null => rfl
  | numbers hab =>
      cases hcd with
      | same =>
          cases c with
          | text s => exact Number.numericEq_congr hab rfl
          | number x => exact Number.numericEq_congr hab rfl
          | null => rfl
      | numbers hcd => exact Number.numericEq_congr hab hcd

end Cell

namespace Operator

/-- Whether a relational operator holds of two places. -/
def relatesPlaces (op : Operator) : Option Int → Option Int → Bool
  | some a, some b => op.accepts (compare a b)
  | _, _ => false

theorem relates_eq (op : Operator) (a b : Cell) :
    op.relates a b = op.relatesPlaces a.leadingPlace? b.leadingPlace? := by
  rw [relates, Cell.leadingPlace?, Cell.leadingPlace?]
  cases a.leadingNumber? with
  | none => rfl
  | some x =>
      cases b.leadingNumber? with
      | none =>
          simp only [Option.bind_some, Option.bind_none]
          cases x.place <;> rfl
      | some y =>
          simp only [Option.bind_some, Number.compare?]
          cases x.place <;> cases y.place <;> rfl

theorem holds_of_isRelational {op : Operator} (h : op.isRelational) (a b : Cell) :
    op.holds a b = op.relates a b := by
  cases op with
  | gt | lt | ge | le => rfl
  | eq | ne | unknown => cases h

theorem holds_congr {a b c d : Cell} (hab : a.Alike b) (hcd : c.Alike d) (op : Operator) :
    op.holds a c = op.holds b d := by
  have hloose := hab.looseEq_eq hcd
  have hrelates : op.relates a c = op.relates b d := by
    rw [relates_eq, relates_eq, hab.leadingPlace?_eq, hcd.leadingPlace?_eq]
  cases op with
  | eq => exact hloose
  | ne => exact congrArg not hloose
  | unknown token => rfl
  | gt | lt | ge | le => exact hrelates

end Operator

end TableQuery
