import TableQuery.Proofs.Query.Denotation

/-!
# A chain of conditions in closed form

Conditions are joined strictly from the left, so what a chain says seems to
depend on all that stands before. It does not: a condition that is joined by
`or` and holds starts the chain anew, and from there on only conditions that are
joined by `and` can make it fail. The induction is on the conditions that are
still to be joined, with whatever is held before them; what is held counts until
the chain starts anew.
-/

namespace TableQuery

namespace Predicate

variable {row : Row}

/-- All predicates that are joined by `and` hold. -/
def AndsHold (predicates : List Predicate) (row : Row) : Prop :=
  ∀ p ∈ predicates, p.connective = .and → p.holds row

theorem andsHold_cons {p : Predicate} {others : List Predicate} :
    AndsHold (p :: others) row ↔ (p.connective = .and → p.holds row) ∧ AndsHold others row :=
  List.forall_mem_cons

/-- Some predicate that is joined by `or` holds, and so do all later ones that are joined by
`and`. -/
def Restarts (predicates : List Predicate) (row : Row) : Prop :=
  ∃ k p, predicates[k]? = some p ∧ p.connective = .or ∧ p.holds row ∧
    AndsHold (predicates.drop (k + 1)) row

theorem not_restarts_nil : ¬Restarts [] row := by
  rintro ⟨k, p, hp, -⟩
  simp at hp

theorem restarts_cons {p : Predicate} {others : List Predicate} : Restarts (p :: others) row ↔
    p.connective = .or ∧ p.holds row ∧ AndsHold others row ∨ Restarts others row := by
  constructor
  · rintro ⟨k, q, hq, hor, hholds, hlater⟩
    cases k with
    | zero =>
        cases hq
        exact .inl ⟨hor, hholds, hlater⟩
    | succ k => exact .inr ⟨k, q, hq, hor, hholds, hlater⟩
  · rintro (⟨hor, hholds, hlater⟩ | ⟨k, q, hq, hor, hholds, hlater⟩)
    · exact ⟨0, p, rfl, hor, hholds, hlater⟩
    · exact ⟨k + 1, q, hq, hor, hholds, hlater⟩

/-- Joins predicates from the left to what is held already. -/
def join (held : Bool) (predicates : List Predicate) (row : Row) : Bool :=
  predicates.foldl (fun held p => p.connective.combine held (p.holds row)) held

theorem fold_cons (p : Predicate) (others : List Predicate) (row : Row) :
    fold (p :: others) row = join (p.holds row) others row := rfl

theorem join_cons (held : Bool) (p : Predicate) (others : List Predicate) (row : Row) :
    join held (p :: others) row = join (p.connective.combine held (p.holds row)) others row := rfl

theorem join_append (held : Bool) (before after : List Predicate) (row : Row) :
    join held (before ++ after) row = join (join held before row) after row :=
  List.foldl_append ..

/-- What is held before counts until the chain starts anew. -/
theorem join_iff {held : Bool} {predicates : List Predicate} : join held predicates row ↔
    held ∧ AndsHold predicates row ∨ Restarts predicates row := by
  induction predicates generalizing held with
  | nil => simp [join, AndsHold, not_restarts_nil]
  | cons p others ih =>
      rw [join_cons, ih, andsHold_cons, restarts_cons]
      cases p.connective with
      | and => simp [Connective.combine, and_assoc]
      | or =>
          simp only [Connective.combine, Bool.or_eq_true, reduceCtorEq, false_implies, true_and,
            or_and_right, or_assoc]

theorem fold_iff {predicates : List Predicate} : fold predicates row ↔ predicates = [] ∨
    ∃ k p, predicates[k]? = some p ∧ (k = 0 ∨ p.connective = .or) ∧ p.holds row ∧
      AndsHold (predicates.drop (k + 1)) row := by
  cases predicates with
  | nil => simp [fold]
  | cons first others =>
      rw [fold_cons, join_iff]
      constructor
      · rintro (⟨hholds, hlater⟩ | ⟨k, p, hp, hor, hholds, hlater⟩)
        · exact .inr ⟨0, first, rfl, .inl rfl, hholds, hlater⟩
        · exact .inr ⟨k + 1, p, hp, .inr hor, hholds, hlater⟩
      · rintro (hnil | ⟨k, p, hp, hstart, hholds, hlater⟩)
        · cases hnil
        · cases k with
          | zero =>
              cases hp
              exact .inl ⟨hholds, hlater⟩
          | succ k => exact .inr ⟨k, p, hp, hstart.resolve_left k.succ_ne_zero, hholds, hlater⟩

/-- Nothing that stands before a predicate counts if that is joined by `or` and holds. -/
theorem fold_append_cons {p : Predicate} (hor : p.connective = .or) (hholds : p.holds row)
    (before after : List Predicate) : fold (before ++ p :: after) row = fold (p :: after) row := by
  cases before with
  | nil => rfl
  | cons first before =>
      rw [List.cons_append, fold_cons, fold_cons, join_append, join_cons, hor, hholds,
        Connective.combine, Bool.or_true]

theorem fold_of_forall_and {predicates : List Predicate}
    (h : ∀ p ∈ predicates, p.connective = .and) :
    fold predicates row ↔ ∀ p ∈ predicates, p.holds row := by
  have hrestarts : ¬Restarts predicates row := by
    rintro ⟨k, p, hp, hor, -⟩
    rw [h p (List.mem_of_getElem? hp)] at hor
    cases hor
  cases predicates with
  | nil => simp [fold]
  | cons first others =>
      rw [List.forall_mem_cons] at h
      rw [restarts_cons, not_or] at hrestarts
      rw [fold_cons, join_iff, or_iff_left hrestarts.2, List.forall_mem_cons]
      exact and_congr_right fun _ => forall₂_congr fun p hp => imp_iff_right (h.2 p hp)

theorem fold_of_forall_or {predicates : List Predicate}
    (h : ∀ p ∈ predicates, p.connective = .or) :
    fold predicates row ↔ predicates = [] ∨ ∃ p ∈ predicates, p.holds row := by
  have hands (k : Nat) : AndsHold (predicates.drop k) row := by
    intro p hp hand
    rw [h p (List.mem_of_mem_drop hp)] at hand
    cases hand
  rw [fold_iff]
  refine or_congr_right ⟨?_, ?_⟩
  · rintro ⟨k, p, hp, -, hholds, -⟩
    exact ⟨p, List.mem_of_getElem? hp, hholds⟩
  · rintro ⟨p, hp, hholds⟩
    obtain ⟨k, hk⟩ := List.mem_iff_getElem?.mp hp
    exact ⟨k, p, hk, .inr (h p hp), hholds, hands _⟩

end Predicate

namespace Condition

variable {row : Row} {domain : List Row} {conditions others : List Condition}

theorem fold_compile_iff : Predicate.fold (conditions.map (·.compile domain)) row ↔
    conditions = [] ∨ ∃ k c, conditions[k]? = some c ∧ (k = 0 ∨ c.connective = .or) ∧
      c.holds row domain ∧
      ∀ d ∈ conditions.drop (k + 1), d.connective = .and → d.holds row domain := by
  rw [Predicate.fold_iff, List.map_eq_nil_iff]
  refine or_congr_right (exists_congr fun k => ?_)
  simp only [List.getElem?_map, Option.map_eq_some_iff, ← List.map_drop, Predicate.AndsHold,
    List.forall_mem_map]
  constructor
  · rintro ⟨-, ⟨c, hc, rfl⟩, hchain⟩
    exact ⟨c, hc, hchain⟩
  · rintro ⟨c, hc, hchain⟩
    exact ⟨_, ⟨c, hc, rfl⟩, hchain⟩

theorem fold_compile_of_perm_and (h : ∀ c ∈ conditions, c.connective = .and)
    (hperm : others.Perm conditions) :
    Predicate.fold (others.map (·.compile domain)) row ↔ ∀ c ∈ conditions, c.holds row domain := by
  have hand : ∀ p ∈ others.map (·.compile domain), p.connective = .and :=
    List.forall_mem_map.mpr fun c hc => h c (hperm.mem_iff.mp hc)
  rw [Predicate.fold_of_forall_and hand, List.forall_mem_map]
  exact forall_congr' fun c => imp_congr_left hperm.mem_iff

theorem fold_compile_of_perm_or (h : ∀ c ∈ conditions, c.connective = .or)
    (hperm : others.Perm conditions) : Predicate.fold (others.map (·.compile domain)) row ↔
      conditions = [] ∨ ∃ c ∈ conditions, c.holds row domain := by
  have hor : ∀ p ∈ others.map (·.compile domain), p.connective = .or :=
    List.forall_mem_map.mpr fun c hc => h c (hperm.mem_iff.mp hc)
  rw [Predicate.fold_of_forall_or hor, List.map_eq_nil_iff, ← List.length_eq_zero_iff,
    hperm.length_eq, List.length_eq_zero_iff]
  refine or_congr_right ⟨?_, ?_⟩
  · rintro ⟨p, hp, hholds⟩
    obtain ⟨c, hc, rfl⟩ := List.mem_map.mp hp
    exact ⟨c, hperm.mem_iff.mp hc, hholds⟩
  · rintro ⟨c, hc, hholds⟩
    exact ⟨_, List.mem_map_of_mem (hperm.mem_iff.mpr hc), hholds⟩

/-- A chain of conditions holds of a row exactly if it is empty or some condition holds that starts
it or is joined by `or`, and all later ones that are joined by `and` hold as well. So the connective
of the first condition does not count, nor does anything before a condition that is joined by `or`
and holds; a chain joined by `and` alone holds if all conditions do, and one joined by `or` alone if
one does, in whatever order they stand. -/
theorem fold_compile_closed_form (conditions : List Condition) (row : Row) (domain : List Row) :
    (Predicate.fold (conditions.map (·.compile domain)) row ↔ conditions = [] ∨
        ∃ k c, conditions[k]? = some c ∧ (k = 0 ∨ c.connective = .or) ∧ c.holds row domain ∧
          ∀ d ∈ conditions.drop (k + 1), d.connective = .and → d.holds row domain) ∧
      (∀ (first : Condition) (others : List Condition) (connective : Connective),
        Predicate.fold ((first.withConnective connective :: others).map (·.compile domain)) row =
          Predicate.fold ((first :: others).map (·.compile domain)) row) ∧
      (∀ (before : List Condition) (c : Condition) (after : List Condition), c.connective = .or →
        c.holds row domain →
        Predicate.fold ((before ++ c :: after).map (·.compile domain)) row =
          Predicate.fold ((c :: after).map (·.compile domain)) row) ∧
      ((∀ c ∈ conditions, c.connective = .and) → ∀ others : List Condition,
        others.Perm conditions → (Predicate.fold (others.map (·.compile domain)) row ↔
          ∀ c ∈ conditions, c.holds row domain)) ∧
      ((∀ c ∈ conditions, c.connective = .or) → ∀ others : List Condition,
        others.Perm conditions → (Predicate.fold (others.map (·.compile domain)) row ↔
          conditions = [] ∨ ∃ c ∈ conditions, c.holds row domain)) := by
  refine ⟨fold_compile_iff, fun _ _ _ => rfl, fun before c after hor hholds => ?_,
    fun h _ => fold_compile_of_perm_and h, fun h _ => fold_compile_of_perm_or h⟩
  rw [List.map_append, List.map_cons]
  exact Predicate.fold_append_cons hor hholds _ _

/-- In `n = 1 or n = 4 and n > 2` the second condition takes the place of the first, and the third
still counts. Joined by one connective, conditions may be turned round. -/
theorem fold_compile_closed_form_restart :
    ((ofLiteral "n" .eq "4").withConnective .or).holds (.ofList [("n", .text "4")]) [] ∧
      Predicate.fold ([ofLiteral "n" .eq "1", (ofLiteral "n" .eq "4").withConnective .or,
          ofLiteral "n" .gt "2"].map (·.compile [])) (.ofList [("n", .text "4")]) =
        Predicate.fold ([(ofLiteral "n" .eq "4").withConnective .or,
          ofLiteral "n" .gt "2"].map (·.compile [])) (.ofList [("n", .text "4")]) ∧
      (∀ c ∈ [ofLiteral "n" .gt "2", ofLiteral "n" .lt "4"], c.connective = .and) ∧
      [ofLiteral "n" .lt "4", ofLiteral "n" .gt "2"].Perm
        [ofLiteral "n" .gt "2", ofLiteral "n" .lt "4"] ∧
      (Predicate.fold ([ofLiteral "n" .lt "4", ofLiteral "n" .gt "2"].map (·.compile []))
          (.ofList [("n", .text "4")]) ↔
        ∀ c ∈ [ofLiteral "n" .gt "2", ofLiteral "n" .lt "4"],
          c.holds (.ofList [("n", .text "4")]) []) ∧
      (∀ c ∈ [(ofLiteral "n" .gt "2").withConnective .or, (ofLiteral "n" .lt "4").withConnective .or],
        c.connective = .or) ∧
      [(ofLiteral "n" .lt "4").withConnective .or, (ofLiteral "n" .gt "2").withConnective .or].Perm
        [(ofLiteral "n" .gt "2").withConnective .or, (ofLiteral "n" .lt "4").withConnective .or] ∧
      Predicate.fold ([(ofLiteral "n" .lt "4").withConnective .or,
          (ofLiteral "n" .gt "2").withConnective .or].map (·.compile []))
        (.ofList [("n", .text "4")]) := by
  have hholds : ((ofLiteral "n" .eq "4").withConnective .or).holds
      (.ofList [("n", .text "4")]) [] := by decide +kernel
  have hand : ∀ c ∈ [ofLiteral "n" .gt "2", ofLiteral "n" .lt "4"], c.connective = .and := by
    decide
  have hor : ∀ c ∈ [(ofLiteral "n" .gt "2").withConnective .or,
      (ofLiteral "n" .lt "4").withConnective .or], c.connective = .or := by decide
  have hgreater : ((ofLiteral "n" .gt "2").withConnective .or).holds
      (.ofList [("n", .text "4")]) [] := by decide +kernel
  obtain ⟨-, -, hrestart, hconjunction, -⟩ := fold_compile_closed_form
    [ofLiteral "n" .gt "2", ofLiteral "n" .lt "4"] (.ofList [("n", .text "4")]) []
  obtain ⟨-, -, -, -, hdisjunction⟩ := fold_compile_closed_form
    [(ofLiteral "n" .gt "2").withConnective .or, (ofLiteral "n" .lt "4").withConnective .or]
    (.ofList [("n", .text "4")]) []
  exact ⟨hholds, hrestart [_] _ [_] rfl hholds, hand, .swap .., hconjunction hand _ (.swap ..), hor,
    .swap .., (hdisjunction hor _ (.swap ..)).mpr (.inr ⟨_, List.mem_cons_self, hgreater⟩)⟩

end Condition

end TableQuery
