import Mathlib.Data.Finset.Card
import TableQuery.Proofs.Source.ColumnNames
import TableQuery.Proofs.Source.RowDecoding
import TableQuery.Source.Delimited

/-!
# Rows by their history

Every row is built by insertions into an empty one. `Follows` says what a map holds after
a history of insertions: which names, in which order, and which value under each.
`Exchanges` says what a single insertion gives and what it leaves alone. One insertion leads
from a map that follows a history to one that follows the longer history, so every run
does, and so does every row that is collected, decoded or loaded.
-/

namespace TableQuery

variable {α : Type}

/-- The value that comes last under a name in a history of insertions. -/
def IsLastEntry (history : List (String × α)) (name : String) (value : α) : Prop :=
  ∃ before after, history = before ++ (name, value) :: after ∧ name ∉ after.map Prod.fst

theorem isLastEntry_concat_iff {history : List (String × α)} {name other : String}
    {value found : α} : IsLastEntry (history ++ [(name, value)]) other found ↔
      if other = name then found = value else IsLastEntry history other found := by
  constructor
  · rintro ⟨before, after, hsplit, hafter⟩
    rcases after.eq_nil_or_concat with rfl | ⟨others, last, rfl⟩
    · obtain ⟨-, hlast⟩ := List.append_inj' hsplit rfl
      cases hlast
      rw [if_pos rfl]
    · rw [List.concat_eq_append, ← List.cons_append, ← List.append_assoc] at hsplit
      obtain ⟨hhistory, hlast⟩ := List.append_inj' hsplit rfl
      cases hlast
      simp only [List.concat_eq_append, List.map_append, List.mem_append, not_or, List.map_cons,
        List.map_nil, List.mem_singleton] at hafter
      rw [if_neg hafter.2]
      exact ⟨before, others, hhistory, hafter.1⟩
  · intro h
    split at h
    · next heq =>
      subst heq h
      exact ⟨history, [], rfl, List.not_mem_nil⟩
    · next hne =>
      obtain ⟨before, after, rfl, hafter⟩ := h
      refine ⟨before, after ++ [(name, value)], by simp, ?_⟩
      simp [hafter, hne]

/-- An entry under another name stays where it is. -/
theorem getElem?_putEntry_iff {name other : String} (h : other ≠ name) (value found : α)
    {entries : List (String × α)} {i : Nat} :
    (putEntry name value entries)[i]? = some (other, found) ↔
      entries[i]? = some (other, found) := by
  induction entries generalizing i with
  | nil => cases i <;> simp [putEntry, Ne.symm h]
  | cons entry rest ih =>
      rw [putEntry]
      split
      · next hname =>
        cases i with
        | zero =>
            have hentry : entry ≠ (other, found) := by
              rintro rfl
              exact h hname
            simp [hentry, Ne.symm h]
        | succ i => rw [List.getElem?_cons_succ, List.getElem?_cons_succ]
      · cases i with
        | zero => rw [List.getElem?_cons_zero, List.getElem?_cons_zero]
        | succ i => rw [List.getElem?_cons_succ, List.getElem?_cons_succ, ih]

namespace OrderedMap

/-- What a map holds after a history of insertions. -/
structure Follows (m : OrderedMap α) (history : List (String × α)) : Prop where
  names_nodup : m.names.Nodup
  mem_names_iff : ∀ name, name ∈ m.names ↔ name ∈ history.map Prod.fst
  names_ordered : m.names.Pairwise fun name other =>
    (history.map Prod.fst).idxOf name < (history.map Prod.fst).idxOf other
  get?_eq_some_iff : ∀ name value, m.get? name = some value ↔ IsLastEntry history name value
  get?_eq_none_iff : ∀ name, m.get? name = none ↔ name ∉ history.map Prod.fst
  size_eq : m.size = (history.map Prod.fst).toFinset.card

/-- An insertion gives the value that was under the name before. A new name goes to the end, and the
entries under other names stay where they are. -/
structure Exchanges (m : OrderedMap α) (name : String) (value : α) (old : Option α)
    (next : OrderedMap α) : Prop where
  old_eq : old = m.get? name
  get?_eq : next.get? name = some value
  names_eq : next.names = if name ∈ m.names then m.names else m.names ++ [name]
  entries_iff : ∀ (i : Nat) (other : String) (found : α), other ≠ name →
    (next.entries[i]? = some (other, found) ↔ m.entries[i]? = some (other, found))

/-- Insertions one after the other, with what each of them gives. -/
inductive Runs : OrderedMap α → List (String × α) → List (Option α) → OrderedMap α → Prop
  | nil (m : OrderedMap α) : Runs m [] [] m
  | cons {m next last : OrderedMap α} {name : String} {value : α} {old : Option α}
      {history : List (String × α)} {olds : List (Option α)}
      (hstep : m.Exchanges name value old next) (hrest : Runs next history olds last) :
      Runs m ((name, value) :: history) (old :: olds) last

/-- Inserts entries one after the other, and gives what each insertion gives. -/
def exchangeAll (m : OrderedMap α) : List (String × α) → List (Option α) × OrderedMap α
  | [] => ([], m)
  | (name, value) :: history =>
    let (old, next) := m.exchange name value
    let (olds, last) := next.exchangeAll history
    (old :: olds, last)

variable {m : OrderedMap α} {history : List (String × α)}

/-! ## One insertion -/

theorem exchange_exchanges (m : OrderedMap α) (name : String) (value : α) :
    m.Exchanges name value (m.exchange name value).1 (m.exchange name value).2 := by
  rw [exchange_eq]
  constructor
  case old_eq => rfl
  case get?_eq => rw [get?_insert, if_pos rfl]
  case names_eq => exact names_insert m name value
  case entries_iff => exact fun _ _ _ hother => getElem?_putEntry_iff hother value _

theorem follows_empty : (empty : OrderedMap α).Follows [] where
  names_nodup := List.nodup_nil
  mem_names_iff _ := Iff.rfl
  names_ordered := List.Pairwise.nil
  get?_eq_some_iff name value := by
    have hnone : ¬IsLastEntry [] name value := by
      rintro ⟨before, after, hsplit, -⟩
      simp at hsplit
    simp [hnone]
  get?_eq_none_iff name := by simp
  size_eq := rfl

theorem names_ordered_insert (h : m.Follows history) (name : String) (value : α) :
    (m.insert name value).names.Pairwise fun a b =>
      ((history ++ [(name, value)]).map Prod.fst).idxOf a <
        ((history ++ [(name, value)]).map Prod.fst).idxOf b := by
  -- Names that were there before are first inserted where they were.
  have hearlier : ∀ a ∈ m.names, ((history ++ [(name, value)]).map Prod.fst).idxOf a =
      (history.map Prod.fst).idxOf a := by
    intro a ha
    rw [List.map_append, List.idxOf_append_of_mem ((h.mem_names_iff a).mp ha)]
  have hordered : m.names.Pairwise fun a b =>
      ((history ++ [(name, value)]).map Prod.fst).idxOf a <
        ((history ++ [(name, value)]).map Prod.fst).idxOf b :=
    h.names_ordered.imp_of_mem fun ha hb hlt => by rwa [hearlier _ ha, hearlier _ hb]
  rw [names_insert]
  split
  · exact hordered
  · next hnew =>
    refine List.pairwise_append.mpr ⟨hordered, List.pairwise_singleton .., ?_⟩
    intro a ha b hb
    obtain rfl := List.mem_singleton.mp hb
    rw [hearlier a ha, List.map_append,
      List.idxOf_append_of_notMem (hnew ∘ (h.mem_names_iff b).mpr)]
    exact Nat.lt_add_right _ (List.idxOf_lt_length_iff.mpr ((h.mem_names_iff a).mp ha))

theorem Follows.insert (h : m.Follows history) (name : String) (value : α) :
    (m.insert name value).Follows (history ++ [(name, value)]) := by
  have hmem : ∀ other, other ∈ (m.insert name value).names ↔
      other ∈ (history ++ [(name, value)]).map Prod.fst := by
    intro other
    rw [names_insert, List.map_append, List.mem_append, ← h.mem_names_iff]
    split
    · next hknown => simpa using fun heq : other = name => heq ▸ hknown
    · simp
  have hnodup : (m.insert name value).names.Nodup := (m.insert name value).nodup
  constructor
  case names_nodup => exact hnodup
  case mem_names_iff => exact hmem
  case names_ordered => exact names_ordered_insert h name value
  case get?_eq_some_iff =>
    intro other found
    rw [get?_insert, isLastEntry_concat_iff]
    split
    · rw [Option.some_inj, eq_comm]
    · exact h.get?_eq_some_iff other found
  case get?_eq_none_iff =>
    intro other
    rw [OrderedMap.get?_eq_none_iff, hmem]
  case size_eq =>
    have hnames : (m.insert name value).names.toFinset =
        ((history ++ [(name, value)]).map Prod.fst).toFinset := by
      ext other
      rw [List.mem_toFinset, List.mem_toFinset, hmem]
    rw [← hnames, List.toFinset_card_of_nodup hnodup]
    exact (List.length_map Prod.fst).symm

/-! ## Any number of insertions -/

theorem runs_exchangeAll (m : OrderedMap α) (history : List (String × α)) :
    m.Runs history (m.exchangeAll history).1 (m.exchangeAll history).2 := by
  induction history generalizing m with
  | nil => exact .nil m
  | cons entry history ih =>
      exact .cons (exchange_exchanges m entry.1 entry.2) (ih (m.exchange entry.1 entry.2).2)

theorem exchangeAll_snd (m : OrderedMap α) (history : List (String × α)) :
    (m.exchangeAll history).2 = history.foldl (fun m entry => m.insert entry.1 entry.2) m := by
  induction history generalizing m with
  | nil => rfl
  | cons entry history ih =>
      rw [List.foldl_cons, ← ih]
      exact congrArg (fun next => (next.exchangeAll history).2)
        (congrArg Prod.snd (exchange_eq m entry.1 entry.2))

theorem follows_ofList (history : List (String × α)) : (ofList history).Follows history := by
  induction history using List.reverseRecOn with
  | nil => exact follows_empty
  | append_singleton history entry ih =>
      rw [ofList_concat]
      exact ih.insert entry.1 entry.2

end OrderedMap

/-! ## Rows -/

namespace Row

theorem ofTexts_eq_ofList (columns cells : List String) :
    ofTexts columns cells = OrderedMap.ofList ((columns.zip cells).map (Prod.map id .text)) := by
  rw [ofTexts, OrderedMap.ofList, List.foldl_map]
  rfl

/-- A row is what its history of insertions makes of it: its columns are pairwise distinct and stand
in the order of their first insertions, and each holds the value of its last one. On the way, every
insertion gives the value that was there and moves or changes nothing else. This holds for any
history from the empty row on, and so for rows that are collected from pairs, decoded from an
object, or built from the lines of a delimited text, the objects of a document or the lines of a
sheet. -/
theorem insertions_follow :
    (∀ history : List (String × Cell),
      OrderedMap.Runs .empty history (OrderedMap.exchangeAll .empty history).1
          (OrderedMap.exchangeAll .empty history).2 ∧
        (OrderedMap.exchangeAll .empty history).2.Follows history ∧
        (OrderedMap.ofList history).Follows history) ∧
      (∀ (draft : Json.Draft) (row : Row), decode draft = .ok row →
        ∃ members, draft.HoldsRow members ∧ row.Follows (members.map (Prod.map id Cell.ofJson))) ∧
      (∀ columns cells : List String,
        (ofTexts columns cells).Follows ((columns.zip cells).map (Prod.map id .text))) ∧
      (∀ members : List (String × Json),
        (ofMembers members).Follows (members.map (Prod.map id Cell.ofJson))) ∧
      ∀ (columns : List String) (line : List SheetCell),
        (Grid.toRow columns line).Follows (Grid.pairs SheetCell.toCell? columns line) := by
  refine ⟨fun history => ⟨OrderedMap.runs_exchangeAll _ history, ?_,
    OrderedMap.follows_ofList history⟩, ?_, ?_, ?_, ?_⟩
  · rw [OrderedMap.exchangeAll_snd]
    exact OrderedMap.follows_ofList history
  · intro draft row h
    obtain ⟨-, members, hmembers, rfl⟩ := decode_eq_ok_iff.mp h
    exact ⟨members, hmembers, ofMembers_eq_ofList members ▸ OrderedMap.follows_ofList _⟩
  · intro columns cells
    exact ofTexts_eq_ofList columns cells ▸ OrderedMap.follows_ofList _
  · intro members
    exact ofMembers_eq_ofList members ▸ OrderedMap.follows_ofList _
  · intro columns line
    exact Grid.toRow_eq_ofList columns line ▸ OrderedMap.follows_ofList _

/-- A column that comes twice in an object keeps its place and takes the later cell; the second
insertion under it gives the earlier one. -/
theorem insertions_follow_repeated :
    decode (.object [(.ok "a", .bool true), (.ok "b", .null), (.ok "a", .string (.ok "x"))]
          .closed) = .ok (.ofList [("a", .text "x"), ("b", .null)]) ∧
      (∃ members, Json.Draft.HoldsRow (.object [(.ok "a", .bool true), (.ok "b", .null),
          (.ok "a", .string (.ok "x"))] .closed) members ∧
        OrderedMap.Follows (.ofList [("a", .text "x"), ("b", .null)])
          (members.map (Prod.map id Cell.ofJson))) ∧
      (OrderedMap.exchangeAll .empty [("a", Cell.text "true"), ("b", .null), ("a", .text "x")]).1 =
        [none, none, some (.text "true")] := by
  have hdecode : decode (.object [(.ok "a", .bool true), (.ok "b", .null),
      (.ok "a", .string (.ok "x"))] .closed) = .ok (.ofList [("a", .text "x"), ("b", .null)]) := rfl
  exact ⟨hdecode, insertions_follow.2.1 _ _ hdecode, by decide⟩

end Row

end TableQuery
