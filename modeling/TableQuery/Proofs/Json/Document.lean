import TableQuery.Proofs.Json.Decode
import TableQuery.Proofs.OrderedMap

/-!
# The document of a text

A text that is read as a document is read value by value, and nothing of it is
skipped. Only the members of an object are gathered: of members with one name the
first gives the place and the last the value, so the names in a document are
pairwise distinct in each of its objects.
-/

namespace TableQuery

theorem OrderedMap.entries_foldl_insert_eq {α : Type} (entries : List (String × α))
    (m : OrderedMap α) :
    (entries.foldl (fun m entry => m.insert entry.1 entry.2) m).entries =
      entries.foldl (fun before entry => putEntry entry.1 entry.2 before) m.entries := by
  induction entries generalizing m with
  | nil => rfl
  | cons entry rest ih => exact ih (m.insert entry.1 entry.2)

theorem mem_putEntry {α : Type} {name : String} {value : α} {entry : String × α}
    {entries : List (String × α)} (h : entry ∈ putEntry name value entries) :
    entry = (name, value) ∨ entry ∈ entries := by
  induction entries with
  | nil => exact .inl (List.mem_singleton.mp h)
  | cons first rest ih =>
      rw [putEntry] at h
      split at h
      · exact (List.mem_cons.mp h).imp_right (List.mem_cons_of_mem first)
      · rcases List.mem_cons.mp h with rfl | hrest
        · exact .inr List.mem_cons_self
        · exact (ih hrest).imp_right (List.mem_cons_of_mem first)

/-- Every entry is one that was inserted. -/
theorem OrderedMap.mem_of_mem_entries_ofList {α : Type} {entry : String × α}
    {entries : List (String × α)} (h : entry ∈ (ofList entries).entries) : entry ∈ entries := by
  rw [ofList, entries_foldl_insert_eq] at h
  suffices hall : ∀ before : List (String × α),
      entry ∈ entries.foldl (fun before entry => putEntry entry.1 entry.2 before) before →
        entry ∈ before ∨ entry ∈ entries from (hall _ h).resolve_left List.not_mem_nil
  clear h
  induction entries with
  | nil => exact fun _ h => .inl h
  | cons first rest ih =>
      intro before h
      rcases ih _ h with hput | hrest
      · rcases mem_putEntry hput with rfl | hbefore
        · exact .inr List.mem_cons_self
        · exact .inl hbefore
      · exact .inr (List.mem_cons_of_mem first hrest)

namespace Json

mutual

/-- The document that a draft without faults stands for. -/
inductive Draft.Holds : Draft → Json → Prop
  | null : Holds .null .null
  | bool (b : Bool) : Holds (.bool b) (.bool b)
  | numeral (n : Numeral) : Holds (.numeral (.ok n)) (.numeral n)
  | string (s : String) : Holds (.string (.ok s)) (.string s)
  | array {drafts : List Draft} {items : List Json} (h : HoldItems drafts items) :
      Holds (.array drafts .closed) (.array items)
  | object {drafts : List (Except Fault String × Draft)} {members : List (String × Json)}
      (h : HoldMembers drafts members) :
      Holds (.object drafts .closed) (.object (OrderedMap.ofList members).entries)

inductive Draft.HoldItems : List Draft → List Json → Prop
  | nil : HoldItems [] []
  | cons {draft : Draft} {item : Json} {drafts : List Draft} {items : List Json}
      (head : draft.Holds item) (tail : HoldItems drafts items) :
      HoldItems (draft :: drafts) (item :: items)

/-- The members of an object as they are written, before they are gathered. -/
inductive Draft.HoldMembers :
    List (Except Fault String × Draft) → List (String × Json) → Prop
  | nil : HoldMembers [] []
  | cons {name : String} {draft : Draft} {value : Json}
      {drafts : List (Except Fault String × Draft)} {members : List (String × Json)}
      (head : draft.Holds value) (tail : HoldMembers drafts members) :
      HoldMembers ((.ok name, draft) :: drafts) ((name, value) :: members)

end

open Decoder (bind_eq_ok)

mutual

theorem holds_of_ofDraft {depth : Nat} :
    ∀ {draft : Draft} {document : Json}, ofDraft depth draft = .ok document → draft.Holds document
  | .null, document, h => by
      cases h
      exact .null
  | .bool b, document, h => by
      cases h
      exact .bool b
  | .numeral (.ok n), document, h => by
      cases h
      exact .numeral n
  | .numeral (.error fault), document, h => nomatch h
  | .string (.ok s), document, h => by
      cases h
      exact .string s
  | .string (.error fault), document, h => nomatch h
  | .array drafts ending, document, h => by
      rw [ofDraft] at h
      split at h
      · exact nomatch h
      · obtain ⟨items, hitems, h⟩ := bind_eq_ok.mp h
        cases ending with
        | closed =>
            cases h
            exact .array (holdItems_of_ofItems hitems)
        | cut => exact nomatch h
  | .object drafts ending, document, h => by
      rw [ofDraft] at h
      split at h
      · exact nomatch h
      · obtain ⟨gathered, hgathered, h⟩ := bind_eq_ok.mp h
        obtain ⟨members, hmembers, rfl⟩ := holdMembers_of_ofMembers hgathered
        cases ending with
        | closed =>
            cases h
            have hentries := OrderedMap.entries_foldl_insert_eq members OrderedMap.empty
            exact hentries ▸ .object hmembers
        | cut => exact nomatch h
  | .broken reading passing, document, h => nomatch h

theorem holdItems_of_ofItems {depth : Nat} :
    ∀ {drafts : List Draft} {items : List Json}, ofItems depth drafts = .ok items →
      Draft.HoldItems drafts items
  | [], items, h => by
      cases h
      exact .nil
  | draft :: drafts, items, h => by
      obtain ⟨item, hitem, h⟩ := bind_eq_ok.mp h
      obtain ⟨rest, hrest, h⟩ := bind_eq_ok.mp h
      cases h
      exact .cons (holds_of_ofDraft hitem) (holdItems_of_ofItems hrest)

/-- What is gathered is what is gathered before with the members of the object put into it. -/
theorem holdMembers_of_ofMembers {depth : Nat} :
    ∀ {drafts : List (Except Fault String × Draft)} {before gathered : List (String × Json)},
      ofMembers depth before drafts = .ok gathered →
      ∃ members, Draft.HoldMembers drafts members ∧
        gathered = members.foldl (fun before entry => putEntry entry.1 entry.2 before) before
  | [], before, gathered, h => by
      cases h
      exact ⟨[], .nil, rfl⟩
  | (name, draft) :: drafts, before, gathered, h => by
      obtain ⟨read, hread, h⟩ := bind_eq_ok.mp h
      obtain ⟨value, hvalue, h⟩ := bind_eq_ok.mp h
      obtain ⟨members, hmembers, rfl⟩ := holdMembers_of_ofMembers h
      exact ⟨(read, value) :: members, hread ▸ .cons (holds_of_ofDraft hvalue) hmembers, rfl⟩

end

/-- A text is read as a document only if it holds this document and nothing after it. -/
theorem exists_holds_of_parse {text : String} {document : Json} (h : parse text = .ok document) :
    ∃ draft, Draft.ofText text.toList = (draft, false) ∧ draft.Holds document := by
  obtain ⟨result, hresult, hmore⟩ := bind_eq_ok.mp h
  split at hmore
  · exact nomatch hmore
  · next hend =>
    cases hmore
    have hdraft := Decoder.readable_eq_ok_iff.mp hresult
    exact ⟨_, Prod.ext rfl (Bool.eq_false_iff.mpr hend), holds_of_ofDraft hdraft⟩

/-! ## Parts of a document -/

namespace Draft

variable {draft : Draft} {items : List Json} {members : List (String × Json)}

theorem HoldItems.exists_holds {drafts : List Draft} (h : HoldItems drafts items) {item : Json}
    (hitem : item ∈ items) : ∃ draft, Holds draft item := by
  induction items generalizing drafts with
  | nil => exact absurd hitem List.not_mem_nil
  | cons first rest ih =>
      cases h with
      | cons head tail =>
          rcases List.mem_cons.mp hitem with rfl | hrest
          · exact ⟨_, head⟩
          · exact ih tail hrest

theorem HoldMembers.exists_holds {drafts : List (Except Fault String × Draft)}
    (h : HoldMembers drafts members) {member : String × Json} (hmember : member ∈ members) :
    ∃ draft, Holds draft member.2 := by
  induction members generalizing drafts with
  | nil => exact absurd hmember List.not_mem_nil
  | cons first rest ih =>
      cases h with
      | cons head tail =>
          rcases List.mem_cons.mp hmember with rfl | hrest
          · exact ⟨_, head⟩
          · exact ih tail hrest

theorem Holds.exists_holds_item (h : draft.Holds (.array items)) {item : Json}
    (hitem : item ∈ items) : ∃ draft, Holds draft item := by
  cases h with
  | array hitems => exact hitems.exists_holds hitem

theorem Holds.exists_holds_member (h : draft.Holds (.object members)) {member : String × Json}
    (hmember : member ∈ members) : ∃ draft, Holds draft member.2 := by
  cases h with
  | object hmembers => exact hmembers.exists_holds (OrderedMap.mem_of_mem_entries_ofList hmember)

theorem Holds.names_nodup (h : draft.Holds (.object members)) :
    (members.map Prod.fst).Nodup := by
  cases h with
  | object => exact (OrderedMap.ofList _).nodup

end Draft

end Json

end TableQuery
