import TableQuery.Proofs.Json.Printed
import TableQuery.Proofs.Query.Tokens

/-!
# Printed queries read back

The text of a query is read back as the same query exactly if its operators,
aggregates and direction can be read from tokens. `FromText` lists the ways to
come by a query from texts: to decode one, or to build one step by step from
columns, values and tokens. Every step keeps the invariant `OfTokens`, so every
such query reads back.
-/

namespace TableQuery

open Json (Decoder Draft Fault Numeral)
open Json.Decoder

variable (reading : Numeral → Except Fault Numeral)

/-! ## The parts of a query -/

theorem SearchTerm.decode_toDraft (term : SearchTerm) :
    decode (term.toJson.toDraft reading) = .ok term := rfl

/-- Decoding a printed condition reads each of its tokens anew and keeps the rest. -/
theorem Condition.decode_toDraft (c : Condition) : decode (c.toJson.toDraft reading) =
    .ok { c with
      connective := Connective.ofToken c.connective.token
      leftAggregate := Aggregate.ofToken? (Aggregate.optionalToken c.leftAggregate)
      operator := Operator.ofToken c.operator.token
      rightAggregate := Aggregate.ofToken? (Aggregate.optionalToken c.rightAggregate) } := rfl

theorem Condition.decode_toDraft_of_ofTokens (c : Condition) (h : c.OfTokens) :
    decode (c.toJson.toDraft reading) = .ok c := by
  rw [decode_toDraft, Connective.ofToken_token, Operator.ofToken_token h.operator,
    Aggregate.ofToken?_optionalToken h.leftAggregate,
    Aggregate.ofToken?_optionalToken h.rightAggregate]

theorem Sorting.decode_toDraft (s : Sorting) : decode (s.toJson.toDraft reading) =
    .ok { s with direction := Direction.ofToken s.direction.token } := rfl

theorem Sorting.decode_toDraft_of_fromToken (s : Sorting) (h : s.direction.FromToken) :
    decode (s.toJson.toDraft reading) = .ok s := by
  rw [decode_toDraft, Direction.ofToken_token h]

namespace Query

theorem decodeNullable_toDrafts {α : Type} {decode : Decoder α} {toJson : α → Json}
    {values : List α} (h : ∀ value ∈ values, decode ((toJson value).toDraft reading) = .ok value) :
    decodeNullable decode (.array (Json.toDrafts reading (values.map toJson)) .closed) =
      .ok values := by
  have hitems : (Json.toDrafts reading (values.map toJson)).mapM decode = .ok values := by
    rw [Json.toDrafts_eq_map, List.map_map]
    exact mapM_map_eq_ok h
  have hlist : list decode (.array (Json.toDrafts reading (values.map toJson)) .closed) =
      .ok values := by
    rw [list, hitems]
    rfl
  rw [decodeNullable, Decoder.optional, hlist]
  · rfl
  · simp

/-- A sorting that is absent is printed as null, one without a column is not. -/
theorem optional_decode_toDraft {sorting : Option Sorting}
    (h : ∀ s ∈ sorting, s.direction.FromToken) :
    Decoder.optional Sorting.decode (((sorting.map Sorting.toJson).getD .null).toDraft reading) =
      .ok sorting := by
  cases sorting with
  | none => rfl
  | some s =>
      have hs := s.decode_toDraft_of_fromToken reading (h s rfl)
      rw [Option.map_some, Option.getD_some, Decoder.optional, hs]
      · rfl
      · simp [Sorting.toJson, Json.toDraft]

theorem decode_toDraft {q : Query} (h : q.OfTokens) :
    decode (q.toJson.toDraft reading) = .ok q := by
  have hsearch : decodeNullable SearchTerm.decode
      (.array (Json.toDrafts reading (q.search.map SearchTerm.toJson)) .closed) = .ok q.search :=
    decodeNullable_toDrafts reading fun term _ => term.decode_toDraft reading
  have hconditions : decodeNullable Condition.decode
      (.array (Json.toDrafts reading (q.conditions.map Condition.toJson)) .closed) =
        .ok q.conditions :=
    decodeNullable_toDrafts reading fun c hc =>
      c.decode_toDraft_of_ofTokens reading (h.conditions c hc)
  have hsorting := optional_decode_toDraft reading h.sorting
  simp [decode, record, toJson, Json.toDraft, Json.toMemberDrafts, takeMember, Field.of, readable,
    close, hsearch, hconditions, hsorting, bind, Except.bind, pure, Except.pure]

/-- No part of a query is printed as a numeral. -/
@[simp] theorem numerals_toJson (q : Query) : q.toJson.numerals = [] := by
  have hsearch : Json.numeralsOfItems (q.search.map SearchTerm.toJson) = [] := by
    rw [Json.numeralsOfItems_eq_flatMap, List.flatMap_map, List.flatMap_eq_nil_iff]
    intro term _
    rfl
  have hconditions : Json.numeralsOfItems (q.conditions.map Condition.toJson) = [] := by
    rw [Json.numeralsOfItems_eq_flatMap, List.flatMap_map, List.flatMap_eq_nil_iff]
    intro c _
    rfl
  have hsorting : ((q.sorting.map Sorting.toJson).getD .null).numerals = [] := by
    cases q.sorting <;> rfl
  simp [toJson, Json.numerals, Json.numeralsOfMembers, hsearch, hconditions, hsorting]

theorem ofText_toJsonText (q : Query) :
    Draft.ofText q.toJsonText.toList = (q.toJson.toDraft .ok, false) := by
  rw [toJsonText, String.toList_ofList]
  refine Draft.ofText_pretty ?_
  rw [numerals_toJson]
  simp

/-- The texts of queries are read back exactly for the queries that tokens can give. -/
theorem ofJsonText_toJsonText_eq_ok_iff {q : Query} :
    ofJsonText q.toJsonText = .ok q ↔ q.OfTokens := by
  constructor
  · exact ofTokens_of_ofJsonText_eq_ok
  · intro h
    rw [ofJsonText, Decoder.run, ofText_toJsonText]
    simp only [decode_toDraft .ok h]
    rfl

end Query

/-! ## Queries that come from texts -/

/-- The conditions that can be built from columns, values and tokens. -/
inductive Condition.FromText : Condition → Prop
  | empty : FromText {}
  | literal (column operator value : String) :
      FromText (.ofLiteral column (.ofToken operator) value)
  | columns (left operator right : String) : FromText (.ofColumns left (.ofToken operator) right)
  | connective {c : Condition} (h : FromText c) (token : String) :
      FromText (c.withConnective (.ofToken token))
  | leftAggregate {c : Condition} (h : FromText c) {token : String} {aggregate : Aggregate}
      (htoken : Aggregate.ofToken? token = some aggregate) :
      FromText (c.withLeftAggregate aggregate)
  | rightAggregate {c : Condition} (h : FromText c) {token : String} {aggregate : Aggregate}
      (htoken : Aggregate.ofToken? token = some aggregate) (column : String) :
      FromText (c.withRightAggregate aggregate column)

/-- The queries that can be decoded, or built from columns, values and tokens. -/
inductive Query.FromText : Query → Prop
  | decoded {text : String} {q : Query} (h : ofJsonText text = .ok q) : FromText q
  | empty : FromText {}
  | search {q : Query} (h : FromText q) (column value : String) :
      FromText (q.withSearch ⟨column, value⟩)
  | filter {q : Query} {c : Condition} (h : FromText q) (hc : c.FromText) :
      FromText (q.withCondition c)
  | sort {q : Query} (h : FromText q) (column token : String) :
      FromText (q.withSorting ⟨column, .ofToken token⟩)

theorem Condition.FromText.ofTokens {c : Condition} (h : c.FromText) : c.OfTokens := by
  induction h with
  | empty => exact ofTokens_default
  | literal column operator value => exact ⟨⟨operator, rfl⟩, ⟨"", rfl⟩, ⟨"", rfl⟩⟩
  | columns left operator right => exact ⟨⟨operator, rfl⟩, ⟨"", rfl⟩, ⟨"", rfl⟩⟩
  | connective h token ih => exact ⟨ih.operator, ih.leftAggregate, ih.rightAggregate⟩
  | leftAggregate h htoken ih => exact ⟨ih.operator, ⟨_, htoken⟩, ih.rightAggregate⟩
  | rightAggregate h htoken column ih => exact ⟨ih.operator, ih.leftAggregate, ⟨_, htoken⟩⟩

theorem Query.FromText.ofTokens {q : Query} (h : q.FromText) : q.OfTokens := by
  induction h with
  | decoded h => exact ofTokens_of_ofJsonText_eq_ok h
  | empty => exact ofTokens_default
  | search h column value ih => exact ⟨ih.conditions, ih.sorting⟩
  | filter h hc ih =>
      refine ⟨?_, ih.sorting⟩
      intro c hmem
      rcases List.mem_append.mp hmem with hmem | hmem
      · exact ih.conditions c hmem
      · rw [List.mem_singleton.mp hmem]
        exact hc.ofTokens
  | sort h column token ih =>
      refine ⟨ih.conditions, ?_⟩
      intro s hs
      rw [← Option.mem_some.mp hs]
      exact ⟨token, rfl⟩

namespace Query

/-- Every query that comes from texts is read back from its own text. -/
theorem ofJsonText_toJsonText {q : Query} (h : q.FromText) : ofJsonText q.toJsonText = .ok q :=
  ofJsonText_toJsonText_eq_ok_iff.mpr h.ofTokens

/-- Tokens that name nothing, a sorting without a column, quotes and control characters come
back. -/
theorem ofJsonText_toJsonText_odd_tokens :
    FromText ⟨[⟨"\"n\\\"", "\x00\t\n\u0085"⟩],
        [⟨.or, some (.unsupported "median"), "a", .unknown " >", some .avg, "", ""⟩],
        some ⟨"", .other " desc "⟩⟩ ∧
      ofJsonText (toJsonText ⟨[⟨"\"n\\\"", "\x00\t\n\u0085"⟩],
        [⟨.or, some (.unsupported "median"), "a", .unknown " >", some .avg, "", ""⟩],
        some ⟨"", .other " desc "⟩⟩) =
        .ok ⟨[⟨"\"n\\\"", "\x00\t\n\u0085"⟩],
          [⟨.or, some (.unsupported "median"), "a", .unknown " >", some .avg, "", ""⟩],
          some ⟨"", .other " desc "⟩⟩ := by
  have hmedian : Aggregate.ofToken? " median " = some (.unsupported "median") := by decide +kernel
  have haverage : Aggregate.ofToken? "Avg" = some .avg := by decide +kernel
  have hcondition := (((Condition.FromText.literal "a" " >" "").connective "Or").leftAggregate
    hmedian).rightAggregate haverage ""
  have hquery := ((FromText.empty.search "\"n\\\"" "\x00\t\n\u0085").filter hcondition).sort
    "" " desc "
  exact ⟨hquery, ofJsonText_toJsonText hquery⟩

end Query

end TableQuery
