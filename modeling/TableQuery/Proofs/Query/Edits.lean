import Mathlib.Logic.Relation
import TableQuery.Proofs.Json.Members
import TableQuery.Proofs.Json.Printed
import TableQuery.Query.Json

/-!
# Documents that hold the same query

A query that is written with objects is told by the known members of these
objects that are not null. `Query.Edit` is one change to a document that leaves
them as they are, to the query itself or to one of its search terms, conditions
or its sorting. Any number of such changes leads from a document that holds a
query to one that holds the same query. Values that are not asked for are only
passed over, so they may be any JSON, at any depth and of any size.
-/

namespace TableQuery

open Json (Draft Member)
open Json.Decoder

variable {members others : List Member}

theorem SearchTerm.decode_carries_edit (h : Member.Edit ["column", "value"] members others) :
    decode.Carries (.object members .closed) (.object others .closed) := by
  refine record_carries_edit ⟨?_, ?_⟩ h
  · simp [Field.commutes_of]
  · simp only [List.forall_mem_cons]
    exact ⟨rfl, rfl, List.forall_mem_nil _⟩

theorem Sorting.decode_carries_edit (h : Member.Edit ["column", "order"] members others) :
    decode.Carries (.object members .closed) (.object others .closed) := by
  refine record_carries_edit ⟨?_, ?_⟩ h
  · simp [Field.commutes_of]
  · simp only [List.forall_mem_cons]
    exact ⟨rfl, rfl, List.forall_mem_nil _⟩

theorem Condition.decode_carries_edit
    (h : Member.Edit ["logic", "leftAgg", "leftCol", "op", "rightAgg", "rightCol", "rightValue"]
      members others) :
    decode.Carries (.object members .closed) (.object others .closed) := by
  refine record_carries_edit ⟨?_, ?_⟩ h
  · simp [Field.commutes_of]
  · simp only [List.forall_mem_cons]
    exact ⟨rfl, rfl, rfl, rfl, rfl, rfl, rfl, List.forall_mem_nil _⟩

namespace Query

/-- One change to the document of a query that leaves the known members that are not null as they
are. -/
inductive Edit : Draft → Draft → Prop
  | query {members others : List Member}
      (h : Member.Edit ["search", "filters", "sort"] members others) :
      Edit (.object members .closed) (.object others .closed)
  | term {members others : List Member} (h : Member.Edit ["column", "value"] members others)
      (before after : List Member) (items rest : List Draft) :
      Edit
        (.object (before ++ (.ok "search",
          .array (items ++ .object members .closed :: rest) .closed) :: after) .closed)
        (.object (before ++ (.ok "search",
          .array (items ++ .object others .closed :: rest) .closed) :: after) .closed)
  | condition {members others : List Member}
      (h : Member.Edit
        ["logic", "leftAgg", "leftCol", "op", "rightAgg", "rightCol", "rightValue"] members others)
      (before after : List Member) (items rest : List Draft) :
      Edit
        (.object (before ++ (.ok "filters",
          .array (items ++ .object members .closed :: rest) .closed) :: after) .closed)
        (.object (before ++ (.ok "filters",
          .array (items ++ .object others .closed :: rest) .closed) :: after) .closed)
  | sorting {members others : List Member} (h : Member.Edit ["column", "order"] members others)
      (before after : List Member) :
      Edit (.object (before ++ (.ok "sort", .object members .closed) :: after) .closed)
        (.object (before ++ (.ok "sort", .object others .closed) :: after) .closed)

/-- A list that may be null follows a change inside one of its items. -/
theorem decodeNullable_carries_item {α : Type} {decode : Json.Decoder α} {item other : Draft}
    (h : decode.Carries item other) (items rest : List Draft) :
    (decodeNullable decode).Carries (.array (items ++ item :: rest) .closed)
      (.array (items ++ other :: rest) .closed) :=
  map_carries _ (optional_carries (by simp) (by simp) (list_carries_item h items rest))

theorem decode_carries_edit {draft other : Draft} (h : Edit draft other) :
    decode.Carries draft other := by
  cases h with
  | query h =>
      refine record_carries_edit ⟨?_, ?_⟩ h
      · simp [Field.commutes_of]
      · simp only [List.forall_mem_cons]
        exact ⟨rfl, rfl, rfl, List.forall_mem_nil _⟩
  | term h before after items rest =>
      have hitem := SearchTerm.decode_carries_edit h
      exact record_carries_value rfl (decodeNullable_carries_item hitem items rest)
  | condition h before after items rest =>
      have hitem := Condition.decode_carries_edit h
      exact record_carries_value rfl (decodeNullable_carries_item hitem items rest)
  | sorting h before after =>
      have hsorting := Sorting.decode_carries_edit h
      exact record_carries_value rfl (optional_carries (by simp) (by simp) hsorting)

theorem decode_carries_edits {draft other : Draft} (h : Relation.ReflTransGen Edit draft other) :
    decode.Carries draft other := by
  induction h with
  | refl => exact fun _ h => h
  | tail _ hedit ih => exact fun q hq => decode_carries_edit hedit q (ih q hq)

/-- A text that holds a query still holds the same query after any changes to the order of its
members, to those that are null and to those that are not known. -/
theorem ofJsonText_of_edits {text other : String}
    (hedits : Relation.ReflTransGen Edit (Draft.ofText text.toList).1 (Draft.ofText other.toList).1)
    (hend : (Draft.ofText other.toList).2 = false) {q : Query} (h : ofJsonText text = .ok q) :
    ofJsonText other = .ok q := by
  have hdecode := decode_carries_edits hedits q (run_eq_ok h)
  rw [ofJsonText, Json.Decoder.run]
  simp only [hdecode, hend]
  rfl

/-- A null and a member that is not known go, a null comes, and the other members change places. -/
theorem ofJsonText_of_edits_reordered :
    Relation.ReflTransGen Edit
        (Draft.ofText (String.ofList (Json.pretty (.object [("filters", .null),
          ("search", .array [.object [("value", .string "x")]]),
          ("sort", .object [("order", .string "desc"), ("note", .array [.object []]),
            ("column", .string "n")])]))).toList).1
        (Draft.ofText (String.ofList (Json.pretty (.object
          [("sort", .object [("column", .string "n"), ("order", .string "desc")]),
            ("search", .array [.object [("column", .null), ("value", .string "x")]])]))).toList).1 ∧
      (Draft.ofText (String.ofList (Json.pretty (.object
          [("sort", .object [("column", .string "n"), ("order", .string "desc")]),
            ("search", .array [.object [("column", .null), ("value", .string "x")]])]))).toList).2 =
        false ∧
      ofJsonText (String.ofList (Json.pretty (.object [("filters", .null),
          ("search", .array [.object [("value", .string "x")]]),
          ("sort", .object [("order", .string "desc"), ("note", .array [.object []]),
            ("column", .string "n")])]))) = .ok ⟨[⟨"", "x"⟩], [], some ⟨"n", .desc⟩⟩ ∧
      ofJsonText (String.ofList (Json.pretty (.object
          [("sort", .object [("column", .string "n"), ("order", .string "desc")]),
            ("search", .array [.object [("column", .null), ("value", .string "x")]])]))) =
        .ok ⟨[⟨"", "x"⟩], [], some ⟨"n", .desc⟩⟩ := by
  refine (fun hedits hend hquery =>
    ⟨hedits, hend, hquery, ofJsonText_of_edits hedits hend hquery⟩) ?_ ?_ ?_
  · rw [Draft.ofText_pretty_of_numerals_eq_nil rfl, Draft.ofText_pretty_of_numerals_eq_nil rfl]
    simp only [Json.toDraft, Json.toDrafts, Json.toMemberDrafts]
    refine .head (.query (.dropNull [] _ "filters")) ?_
    refine .head (.term (.addNull [] _ (List.mem_cons_self (a := "column")) (by simp))
      [] _ [] []) ?_
    refine .head (.sorting (.dropUnknown [(.ok "order", _)] _ _ (by decide))
      [(.ok "search", _)] []) ?_
    refine .head (.sorting (.reorder (.swap ..)) [(.ok "search", _)] []) ?_
    exact .single (.query (.reorder (.swap ..)))
  · rw [Draft.ofText_pretty_of_numerals_eq_nil rfl]
  · rw [ofJsonText, Json.Decoder.run, Draft.ofText_pretty_of_numerals_eq_nil rfl]
    rfl

end Query

end TableQuery
