import Mathlib.Data.List.Basic
import Mathlib.Data.List.Pairwise

/-!
# Stable sorting by a comparison

`IsStableSort cmp list sorted` says that `sorted` holds the elements of `list`
in an order that never goes down, and that all elements which compare equal to
a given one stand in both lists in the same order. For a comparison that is a
total preorder there is exactly one such list, and `mergeSort` finds it. The
equation on filtered lists also counts elements that occur several times, so
nothing has to be said about positions.
-/

namespace TableQuery

variable {α : Type}

/-- `sorted` is `list` put in order, with ties left as they are. -/
structure IsStableSort (cmp : α → α → Ordering) (list sorted : List α) : Prop where
  perm : sorted.Perm list
  ordered : sorted.Pairwise fun a b => cmp a b ≠ .gt
  ties (a : α) : sorted.filter (cmp a · == .eq) = list.filter (cmp a · == .eq)

namespace IsStableSort

variable {cmp : α → α → Ordering}

/-- Elements may be removed before a stable sort or after it. -/
theorem filter {list sorted : List α} (h : IsStableSort cmp list sorted) (p : α → Bool) :
    IsStableSort cmp (list.filter p) (sorted.filter p) where
  perm := h.perm.filter p
  ordered := h.ordered.filter p
  ties a := by rw [List.filter_comm, h.ties a, List.filter_comm]

variable [Std.TransCmp cmp]

/-- The heads of two ordered permutations of each other compare equal. -/
theorem cmp_head_eq {a b : α} {s t : List α} (hperm : (a :: s).Perm (b :: t))
    (hs : (a :: s).Pairwise fun x y => cmp x y ≠ .gt)
    (ht : (b :: t).Pairwise fun x y => cmp x y ≠ .gt) : cmp a b = .eq := by
  have hab : cmp a b ≠ .gt := by
    rcases List.mem_cons.mp (hperm.mem_iff.mpr List.mem_cons_self) with rfl | hb
    · simp [Std.ReflCmp.compare_self]
    · exact List.rel_of_pairwise_cons hs hb
  have hba : cmp b a ≠ .gt := by
    rcases List.mem_cons.mp (hperm.mem_iff.mp List.mem_cons_self) with rfl | ha
    · simp [Std.ReflCmp.compare_self]
    · exact List.rel_of_pairwise_cons ht ha
  have hswap : cmp b a = (cmp a b).swap := Std.OrientedCmp.eq_swap
  cases h : cmp a b <;> simp_all

/-- Two ordered permutations of each other that agree on all ties are equal. -/
theorem eq_of_ties {s t : List α} (hperm : s.Perm t)
    (hs : s.Pairwise fun x y => cmp x y ≠ .gt) (ht : t.Pairwise fun x y => cmp x y ≠ .gt)
    (hties : ∀ a, s.filter (cmp a · == .eq) = t.filter (cmp a · == .eq)) : s = t := by
  induction s generalizing t with
  | nil => exact hperm.nil_eq
  | cons a s ih =>
      cases t with
      | nil => exact absurd hperm.symm.nil_eq (by simp)
      | cons b t =>
          -- The ties of `a` start with `a` in the one list and with `b` in the other.
          have hab : cmp a b = .eq := cmp_head_eq hperm hs ht
          have hhead : a = b := by
            have h := hties a
            simp only [List.filter_cons, Std.ReflCmp.compare_self, hab, beq_self_eq_true,
              if_true] at h
            exact (List.cons.inj h).1
          subst hhead
          have htail : ∀ c, s.filter (cmp c · == .eq) = t.filter (cmp c · == .eq) := by
            intro c
            have h := hties c
            simp only [List.filter_cons] at h
            split at h
            · exact (List.cons.inj h).2
            · exact h
          rw [ih hperm.cons_inv hs.of_cons ht.of_cons htail]

theorem unique {list s t : List α} (hs : IsStableSort cmp list s)
    (ht : IsStableSort cmp list t) : s = t :=
  eq_of_ties (hs.perm.trans ht.perm.symm) hs.ordered ht.ordered
    fun a => (hs.ties a).trans (ht.ties a).symm

theorem notGt_trans (a b c : α) (hab : cmp a b != .gt) (hbc : cmp b c != .gt) :
    cmp a c != .gt := by
  simp only [bne_iff_ne, Ordering.ne_gt_iff_isLE] at *
  exact Std.TransCmp.isLE_trans hab hbc

theorem notGt_total (a b : α) : (cmp a b != .gt) || (cmp b a != .gt) := by
  have hswap : cmp b a = (cmp a b).swap := Std.OrientedCmp.eq_swap
  rw [hswap]
  cases cmp a b <;> rfl

/-- Elements that tie with the same element tie with each other. -/
theorem cmp_eq_of_ties {a x y : α} (hx : cmp a x = .eq) (hy : cmp a y = .eq) : cmp x y = .eq := by
  have hxa : cmp x a = .eq := Std.OrientedCmp.eq_symm hx
  exact Std.TransCmp.eq_trans hxa hy

/-- Sorting leaves the elements that tie with one element as they are. -/
theorem filter_mergeSort (list : List α) (a : α) :
    (list.mergeSort fun x y => cmp x y != .gt).filter (cmp a · == .eq) =
      list.filter (cmp a · == .eq) := by
  have hties : (list.filter (cmp a · == .eq)).Pairwise fun x y => cmp x y != .gt := by
    apply List.pairwise_of_forall_mem_list
    intro x hx y hy
    have hax : cmp a x = .eq := by simpa using (List.mem_filter.mp hx).2
    have hay : cmp a y = .eq := by simpa using (List.mem_filter.mp hy).2
    simp [cmp_eq_of_ties hax hay]
  -- The ties are a sorted part of `list`, so they survive as a part of the result ...
  have hsub : (list.filter (cmp a · == .eq)).Sublist
      ((list.mergeSort fun x y => cmp x y != .gt).filter (cmp a · == .eq)) := by
    have h := (List.sublist_mergeSort notGt_trans notGt_total hties List.filter_sublist).filter
      (cmp a · == .eq)
    simpa using h
  -- ... and the result has no others, because it is a permutation.
  have hperm := (List.mergeSort_perm list fun x y => cmp x y != .gt).filter (cmp a · == .eq)
  exact (hsub.eq_of_length hperm.length_eq.symm).symm

theorem mergeSort (list : List α) :
    IsStableSort cmp list (list.mergeSort fun a b => cmp a b != .gt) where
  perm := List.mergeSort_perm list _
  ordered := by
    have h : (list.mergeSort fun a b => cmp a b != .gt).Pairwise fun a b => cmp a b != .gt :=
      List.pairwise_mergeSort notGt_trans notGt_total list
    exact h.imp fun hab => by simpa using hab
  ties := filter_mergeSort list

end IsStableSort

end TableQuery
