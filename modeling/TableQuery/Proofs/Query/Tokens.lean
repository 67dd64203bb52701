import TableQuery.Proofs.Json.Decode
import TableQuery.Proofs.Text.Blank
import TableQuery.Query.Json

/-!
# Tokens that are read

Operators, connectives, directions and aggregates are printed as tokens. Not
every one comes back from its token: an unknown operator with the token `=`
would come back as equality, and an unsupported aggregate whose name has blanks
around it would lose them. Reading a token never gives such a value, and what
it gives comes back. `OfTokens` is this invariant of a condition and of a query,
and every text that is decoded establishes it.
-/

namespace TableQuery

open Json (Decoder)
open Json.Decoder

/-- A decoder of a token that may be missing yields what its reading of tokens gives. -/
theorem yields_of_optional_token {α : Type} {read : Option String → α} {P : α → Prop}
    (hmissing : P (read none)) (htoken : ∀ token, P (read (some token))) :
    Yields (fun draft => do return read (← Decoder.optional .string draft)) P := by
  refine map_yields (Q := fun _ => True) (fun _ _ _ => trivial) ?_
  intro found _
  cases found with
  | none => exact hmissing
  | some token => exact htoken token

namespace Operator

/-- The operators that a token can be read as. -/
def FromToken (op : Operator) : Prop := ∃ token, ofToken token = op

theorem ofToken_eq_unknown {token name : String} (h : ofToken token = .unknown name) :
    ofToken name = .unknown name := by
  have hname : name = token := by
    simp only [ofToken] at h
    split_ifs at h
    exact (Operator.unknown.inj h).symm
  exact hname ▸ h

theorem ofToken_token {op : Operator} (h : op.FromToken) : ofToken op.token = op := by
  obtain ⟨token, htoken⟩ := h
  cases op with
  | unknown name => exact ofToken_eq_unknown htoken
  | eq | ne | gt | lt | ge | le => rfl

theorem decode_yields : decode.Yields FromToken :=
  yields_of_optional_token ⟨"", rfl⟩ fun token => ⟨token, rfl⟩

end Operator

@[simp] theorem Connective.ofToken_token (connective : Connective) :
    ofToken connective.token = connective := by
  cases connective <;> rfl

namespace Direction

/-- The directions that a token can be read as. -/
def FromToken (direction : Direction) : Prop := ∃ token, ofToken token = direction

theorem ofToken_eq_other {token name : String} (h : ofToken token = .other name) :
    ofToken name = .other name := by
  have hname : name = token := by
    simp only [ofToken] at h
    split_ifs at h
    exact (Direction.other.inj h).symm
  exact hname ▸ h

theorem ofToken_token {direction : Direction} (h : direction.FromToken) :
    ofToken direction.token = direction := by
  obtain ⟨token, htoken⟩ := h
  cases direction with
  | other name => exact ofToken_eq_other htoken
  | asc | desc => rfl

theorem decode_yields : decode.Yields FromToken :=
  yields_of_optional_token ⟨"", rfl⟩ fun token => ⟨token, rfl⟩

end Direction

namespace Aggregate

/-- The aggregates, and the absence of one, that a token can be read as. -/
def FromToken (aggregate : Option Aggregate) : Prop := ∃ token, ofToken? token = aggregate

/-- The name of an unsupported aggregate has no blanks at its ends, so it is read as it is. -/
theorem ofToken?_eq_unsupported {token name : String}
    (h : ofToken? token = some (.unsupported name)) :
    ofToken? name = some (.unsupported name) := by
  have hname : name.toList = Text.trim token.toList := by
    simp only [ofToken?] at h
    split_ifs at h
    all_goals simp only [Option.some.injEq, Aggregate.unsupported.injEq, reduceCtorEq] at h
    rw [← h, String.toList_ofList]
  have htrim : Text.trim name.toList = Text.trim token.toList := by
    rw [hname, Text.trim_trim]
  rw [← h, ofToken?, htrim, ofToken?]

theorem ofToken?_optionalToken {aggregate : Option Aggregate} (h : FromToken aggregate) :
    ofToken? (optionalToken aggregate) = aggregate := by
  obtain ⟨token, htoken⟩ := h
  rcases aggregate with _ | aggregate
  · rfl
  · cases aggregate with
    | unsupported name => exact ofToken?_eq_unsupported htoken
    | min | max | sum | avg => rfl

theorem decodeOptional_yields : decodeOptional.Yields FromToken :=
  yields_of_optional_token ⟨"", rfl⟩ fun token => ⟨token, rfl⟩

end Aggregate

/-! ## The invariant of what is read -/

/-- A condition whose operator and aggregates can be read from tokens. -/
structure Condition.OfTokens (c : Condition) : Prop where
  operator : c.operator.FromToken
  leftAggregate : Aggregate.FromToken c.leftAggregate
  rightAggregate : Aggregate.FromToken c.rightAggregate

/-- A query whose conditions and direction can be read from tokens. -/
structure Query.OfTokens (q : Query) : Prop where
  conditions : ∀ c ∈ q.conditions, c.OfTokens
  sorting : ∀ s ∈ q.sorting, s.direction.FromToken

theorem Condition.ofTokens_default : ({} : Condition).OfTokens where
  operator := ⟨"", rfl⟩
  leftAggregate := ⟨"", rfl⟩
  rightAggregate := ⟨"", rfl⟩

theorem Condition.decode_yields : Condition.decode.Yields Condition.OfTokens := by
  refine record_yields Condition.ofTokens_default ?_
  intro field hfield draft c c' h hc
  simp only [List.mem_cons, List.not_mem_nil, or_false] at hfield
  rcases hfield with rfl | rfl | rfl | rfl | rfl | rfl | rfl
  all_goals obtain ⟨value, hvalue, rfl⟩ := update_of_eq_ok h
  · exact ⟨hc.operator, hc.leftAggregate, hc.rightAggregate⟩
  · exact ⟨hc.operator, Aggregate.decodeOptional_yields _ _ hvalue, hc.rightAggregate⟩
  · exact ⟨hc.operator, hc.leftAggregate, hc.rightAggregate⟩
  · exact ⟨Operator.decode_yields _ _ hvalue, hc.leftAggregate, hc.rightAggregate⟩
  · exact ⟨hc.operator, hc.leftAggregate, Aggregate.decodeOptional_yields _ _ hvalue⟩
  · exact ⟨hc.operator, hc.leftAggregate, hc.rightAggregate⟩
  · exact ⟨hc.operator, hc.leftAggregate, hc.rightAggregate⟩

theorem Sorting.decode_yields : Sorting.decode.Yields fun s => s.direction.FromToken := by
  refine record_yields ⟨"", rfl⟩ ?_
  intro field hfield draft s s' h hs
  simp only [List.mem_cons, List.not_mem_nil, or_false] at hfield
  rcases hfield with rfl | rfl
  all_goals obtain ⟨value, hvalue, rfl⟩ := update_of_eq_ok h
  · exact hs
  · exact Direction.decode_yields _ _ hvalue

namespace Query

theorem decodeNullable_yields {α : Type} {decode : Decoder α} {P : α → Prop}
    (h : decode.Yields P) :
    (decodeNullable decode).Yields fun values => ∀ value ∈ values, P value := by
  refine map_yields (optional_yields (list_yields h)) ?_
  intro found hfound
  cases found with
  | none => simp
  | some values => exact hfound values rfl

theorem ofTokens_default : ({} : Query).OfTokens where
  conditions := by simp
  sorting := by simp

theorem decode_yields : Query.decode.Yields OfTokens := by
  refine record_yields ofTokens_default ?_
  intro field hfield draft q q' h hq
  simp only [List.mem_cons, List.not_mem_nil, or_false] at hfield
  rcases hfield with rfl | rfl | rfl
  all_goals obtain ⟨value, hvalue, rfl⟩ := update_of_eq_ok h
  · exact ⟨hq.conditions, hq.sorting⟩
  · exact ⟨decodeNullable_yields Condition.decode_yields _ _ hvalue, hq.sorting⟩
  · exact ⟨hq.conditions, optional_yields Sorting.decode_yields _ _ hvalue⟩

/-- Every query that is read from a text has the invariant. -/
theorem ofTokens_of_ofJsonText_eq_ok {text : String} {q : Query} (h : ofJsonText text = .ok q) :
    q.OfTokens :=
  decode_yields _ _ (run_eq_ok h)

end Query

end TableQuery
