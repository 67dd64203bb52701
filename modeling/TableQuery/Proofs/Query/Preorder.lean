import Mathlib.Data.String.Basic
import TableQuery.Proofs.Number.Words
import TableQuery.Proofs.Query.Sorting

/-!
# What the order of cells says, and what rows inherit of it

Cells are put in order by kind first. Within the numbers the order is that of
their units, with all values that are not a number tied behind infinity; within
the texts it is the lexicographic order of the characters' code points. With the
total preorder of cells this tells how any two cells compare. Rows inherit the
preorder through their keys, whatever the column and the direction are.
-/

namespace TableQuery

namespace Cell

theorem order_number (x y : Number) : (number x).order (number y) = x.sortCompare y := rfl

/-- Numbers compare like the words that store them, once these are made uniform. -/
theorem order_words (v w : Word) : (number v.toNumber).order (number w.toNumber) =
    Word.totalCompare v.normalize w.normalize := by
  rw [order_number, Word.totalCompare_normalize]

/-- Values that are not a number tie, whatever their signs and other bits are. -/
theorem order_of_top_lt {v w : Word} (hv : Magnitude.top < v.code) (hw : Magnitude.top < w.code) :
    (number v.toNumber).order (number w.toNumber) = .eq := by
  rw [Word.toNumber_eq_nan_iff.mpr hv, Word.toNumber_eq_nan_iff.mpr hw]
  rfl

/-- Every number that is one, infinity too, comes before those that are none. -/
theorem order_of_le_top {v w : Word} (hv : v.code ≤ Magnitude.top) (hw : Magnitude.top < w.code) :
    (number v.toNumber).order (number w.toNumber) = .lt := by
  rw [order_number, Word.toNumber_of_le hv, Word.toNumber_eq_nan_iff.mpr hw, Number.sortCompare,
    Number.place_signed, Number.place_nan]

theorem order_signed (s t : Bool) (m n : Magnitude) :
    (number (.signed s m)).order (number (.signed t n)) =
      compare (Number.signedUnits s m) (Number.signedUnits t n) :=
  Number.sortCompare_signed s t m n

theorem order_text_eq_lt_iff {s t : String} : (text s).order (text t) = .lt ↔
    List.Lex (fun c d => c.toNat < d.toNat) s.toList t.toList := by
  have hlt : (text s).order (text t) = .lt ↔ s < t := compareOfLessAndEq_eq_lt
  exact hlt.trans String.lt_iff_toList_lt

theorem order_text_eq_eq_iff {s t : String} : (text s).order (text t) = .eq ↔ s = t :=
  Std.compare_eq_iff_eq

end Cell

namespace Sorting

/-- Cells are compared by a total preorder, in which numbers come before texts and texts before
empty cells. The zeros tie, and so do all values that are not a number, behind all others; those
compare by their units, and texts by code points. For every column and direction, the comparison of
rows is a total preorder as well. -/
theorem totalPreorder_order_compare :
    ((∀ a : Cell, a.order a = .eq) ∧ (∀ a b : Cell, b.order a = (a.order b).swap) ∧
        ∀ a b c : Cell, (a.order b).isLE → (b.order c).isLE → (a.order c).isLE) ∧
      (∀ x s, (Cell.number x).order (.text s) = .lt ∧ (Cell.text s).order .null = .lt ∧
        (Cell.number x).order .null = .lt) ∧
      ((Cell.number .negativeZero).order (.number .zero) = .eq ∧
        (∀ v w : Word, (Cell.number v.toNumber).order (.number w.toNumber) =
          Word.totalCompare v.normalize w.normalize) ∧
        (∀ v w : Word, Magnitude.top < v.code → Magnitude.top < w.code →
          (Cell.number v.toNumber).order (.number w.toNumber) = .eq) ∧
        (∀ v w : Word, v.code ≤ Magnitude.top → Magnitude.top < w.code →
          (Cell.number v.toNumber).order (.number w.toNumber) = .lt) ∧
        ∀ s t m n, (Cell.number (.signed s m)).order (.number (.signed t n)) =
          Ord.compare (Number.signedUnits s m) (Number.signedUnits t n)) ∧
      (∀ s t : String,
        ((Cell.text s).order (.text t) = .lt ↔
          List.Lex (fun c d => c.toNat < d.toNat) s.toList t.toList) ∧
        ((Cell.text s).order (.text t) = .eq ↔ s = t)) ∧
      ∀ s : Sorting, (∀ a, s.compare a a = .eq) ∧ (∀ a b, s.compare b a = (s.compare a b).swap) ∧
        ∀ a b c, (s.compare a b).isLE → (s.compare b c).isLE → (s.compare a c).isLE := by
  refine ⟨⟨fun _ => Std.ReflCmp.compare_self, fun a b => b.order_swap a,
    fun _ _ _ => Cell.order_isLE_trans⟩, fun _ _ => ⟨rfl, rfl, rfl⟩, ⟨by decide, Cell.order_words,
    fun _ _ => Cell.order_of_top_lt, fun _ _ => Cell.order_of_le_top, Cell.order_signed⟩,
    fun _ _ => ⟨Cell.order_text_eq_lt_iff, Cell.order_text_eq_eq_iff⟩, fun s => ?_⟩
  exact ⟨fun _ => Std.ReflCmp.compare_self, fun a b => s.compare_swap b a,
    fun _ _ _ => s.compare_isLE_trans⟩

/-- A negative and a positive value that are not a number tie, behind infinity; text lies between
numbers and an empty cell, and downwards it is the other way round. -/
theorem totalPreorder_order_compare_kinds :
    Magnitude.top < Word.code 0xFFF8000000000000 ∧ Magnitude.top < Word.code 0x7FF0000000000001 ∧
      Word.code 0x7FF0000000000000 ≤ Magnitude.top ∧
      (Cell.number (Word.toNumber 0xFFF8000000000000)).order
        (.number (Word.toNumber 0x7FF0000000000001)) = .eq ∧
      (Cell.number (Word.toNumber 0x7FF0000000000000)).order
        (.number (Word.toNumber 0xFFF8000000000000)) = .lt ∧
      (Cell.order (.number .nan) (.text "10")).isLE ∧ (Cell.order (.text "10") .null).isLE ∧
      (Cell.order (.number .nan) .null).isLE ∧
      (compare ⟨"k", .desc⟩ .empty (.ofList [("k", .text "x")])).isLE ∧
      (compare ⟨"k", .desc⟩ (.ofList [("k", .text "x")]) (.ofList [("k", .text "10")])).isLE ∧
      (compare ⟨"k", .desc⟩ .empty (.ofList [("k", .text "10")])).isLE := by
  have hnegative : Magnitude.top < Word.code 0xFFF8000000000000 := by decide +kernel
  have hpositive : Magnitude.top < Word.code 0x7FF0000000000001 := by decide +kernel
  have hinfinity : Word.code 0x7FF0000000000000 ≤ Magnitude.top := by decide +kernel
  have hnan : (Cell.order (.number .nan) (.text "10")).isLE := by decide
  have htext : (Cell.order (.text "10") .null).isLE := by decide
  have hnone : (compare ⟨"k", .desc⟩ .empty (.ofList [("k", .text "x")])).isLE := by decide +kernel
  have hword : (compare ⟨"k", .desc⟩ (.ofList [("k", .text "x")])
      (.ofList [("k", .text "10")])).isLE := by decide +kernel
  obtain ⟨⟨-, -, htrans⟩, -, ⟨-, -, htie, hlast, -⟩, -, hrows⟩ := totalPreorder_order_compare
  exact ⟨hnegative, hpositive, hinfinity, htie _ _ hnegative hpositive,
    hlast _ _ hinfinity hnegative, hnan, htext, htrans _ _ _ hnan htext, hnone, hword,
    (hrows ⟨"k", .desc⟩).2.2 _ _ _ hnone hword⟩

end Sorting

end TableQuery
