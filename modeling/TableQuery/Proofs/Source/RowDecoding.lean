import TableQuery.Proofs.Source.JsonGrammar

/-!
# Rows decoded directly and rows loaded

A text that is a list of objects can be taken for rows in two ways. `Row.decodeTable`
walks the draft of the text once and puts each member into its row as it comes.
`Source.ofJson` first gathers the members of each object into a document and then
turns the values that are left into cells. `HoldsTable` relates a draft to the members
of its rows as they are written, before anything is gathered, and both ways are
described by it. A value becomes the same cell wherever it stands, so gathering
members and turning their values into cells can change places.
-/

namespace TableQuery

/-! ## Gathering and mapping -/

theorem map_putEntry {α β : Type} (f : α → β) (name : String) (value : α)
    (entries : List (String × α)) :
    (putEntry name value entries).map (Prod.map id f) =
      putEntry name (f value) (entries.map (Prod.map id f)) := by
  induction entries with
  | nil => rfl
  | cons entry rest ih =>
      rw [List.map_cons, putEntry, putEntry, Prod.map_fst, id]
      split
      · rfl
      · rw [List.map_cons, ih]

/-- A map with its values changed holds the changed entries. -/
theorem OrderedMap.entries_ofList_map {α β : Type} (f : α → β) (entries : List (String × α)) :
    (ofList (entries.map (Prod.map id f))).entries =
      (ofList entries).entries.map (Prod.map id f) := by
  suffices hall : ∀ before : List (String × α),
      (entries.map (Prod.map id f)).foldl (fun before entry => putEntry entry.1 entry.2 before)
          (before.map (Prod.map id f)) =
        (entries.foldl (fun before entry => putEntry entry.1 entry.2 before) before).map
          (Prod.map id f) by
    rw [ofList, ofList, entries_foldl_insert_eq, entries_foldl_insert_eq]
    exact hall []
  induction entries with
  | nil => exact fun _ => rfl
  | cons entry rest ih =>
      intro before
      rw [List.foldl_cons, ← ih, map_putEntry]
      rfl

namespace Row

open Json

variable {draft : Draft} {rows : List Row} {row : Row} {members : List (String × Json)}

theorem ofMembers_eq_ofList (members : List (String × Json)) :
    ofMembers members = OrderedMap.ofList (members.map (Prod.map id Cell.ofJson)) := by
  rw [OrderedMap.ofList, List.foldl_map]
  rfl

/-- Members that are gathered before they become cells make the same row. -/
theorem ofMembers_gathered (members : List (String × Json)) :
    ofMembers (OrderedMap.ofList members).entries = ofMembers members := by
  rw [← OrderedMap.entries_inj, entries_ofMembers (OrderedMap.ofList members).nodup,
    ofMembers_eq_ofList, OrderedMap.entries_ofList_map]
  rfl

end Row

/-! ## Rows as they are written -/

namespace Json.Draft

/-- A value without parts. -/
def IsScalar : Draft → Prop
  | .null | .bool _ | .numeral _ | .string _ => True
  | _ => False

/-- An object without arrays and objects in it, under whatever names. -/
def IsScalarRow : Draft → Prop
  | .object members _ => ∀ member ∈ members, member.2.IsScalar
  | _ => False

/-- A list of objects without arrays and objects in them. -/
def IsScalarTable : Draft → Prop
  | .array items _ => ∀ item ∈ items, item.IsScalarRow
  | _ => False

/-- The members of a row as they are written; a column may come more than once. -/
inductive HoldsRow : Draft → List (String × Json) → Prop
  | object {drafts : List (Except Fault String × Draft)} {members : List (String × Json)}
      (h : HoldMembers drafts members) : HoldsRow (.object drafts .closed) members

inductive HoldsTable : Draft → List (List (String × Json)) → Prop
  | array {drafts : List Draft} {written : List (List (String × Json))}
      (h : List.Forall₂ HoldsRow drafts written) : HoldsTable (.array drafts .closed) written

variable {draft : Draft} {document : Json}

/-- A list of objects is a table of the rows that are written in it. -/
theorem Holds.exists_holdsTable (h : draft.Holds document) (hscalar : draft.IsScalarTable) :
    ∃ written, draft.HoldsTable written := by
  cases h with
  | null | bool | numeral | string | object => exact hscalar.elim
  | @array drafts items hitems =>
      suffices hrows : ∃ written, List.Forall₂ HoldsRow drafts written from
        hrows.imp fun _ => .array
      induction items generalizing drafts with
      | nil =>
          cases hitems
          exact ⟨[], .nil⟩
      | cons item rest ih =>
          cases hitems with
          | cons head tail =>
              obtain ⟨hrow, hrest⟩ := List.forall_mem_cons.mp hscalar
              obtain ⟨written, hwritten⟩ := ih tail hrest
              cases head with
              | null | bool | numeral | string | array => exact hrow.elim
              | @object _ members hmembers => exact ⟨members :: written, .cons ⟨hmembers⟩ hwritten⟩

end Json.Draft

open Json
open Json.Decoder (bind_eq_ok)

/-! ## Decoding -/

theorem Json.Decoder.run_eq_ok_iff {α : Type} {decode : Decoder α} {text : String} {value : α} :
    decode.run text = .ok value ↔
      ∃ draft, Draft.ofText text.toList = (draft, false) ∧ decode draft = .ok value := by
  obtain ⟨draft, more, hscan⟩ : ∃ draft more, Draft.ofText text.toList = (draft, more) :=
    ⟨_, _, rfl⟩
  rw [run, hscan]
  cases more with
  | false => simp [bind_eq_ok, pure, Except.pure]
  | true => simp [bind_eq_ok, faulty]

variable {draft : Draft}

/-- Exactly the values without parts are decoded as cells. -/
theorem Cell.decode_eq_ok_iff {cell : Cell} :
    decode draft = .ok cell ↔ draft.IsScalar ∧ ∃ value, draft.Holds value ∧ ofJson value = cell := by
  constructor
  · intro h
    cases draft with
    | null => exact ⟨trivial, .null, .null, Except.ok.inj h⟩
    | bool b => exact ⟨trivial, .bool b, .bool b, Except.ok.inj h⟩
    | numeral n =>
        obtain ⟨numeral, hread, hcell⟩ := bind_eq_ok.mp h
        rw [Decoder.readable_eq_ok_iff.mp hread]
        exact ⟨trivial, .numeral numeral, .numeral numeral, Except.ok.inj hcell⟩
    | string s =>
        obtain ⟨text, hread, hcell⟩ := bind_eq_ok.mp h
        rw [Decoder.readable_eq_ok_iff.mp hread]
        exact ⟨trivial, .string text, .string text, Except.ok.inj hcell⟩
    | array | object | broken => cases h
  · rintro ⟨hscalar, value, hholds, rfl⟩
    cases hholds with
    | null | bool | numeral | string => rfl
    | array | object => exact hscalar.elim

namespace Row

variable {start row : Row} {rows : List Row}

/-- Puts the draft of a member into a row. -/
def takeMember (row : Row) (member : Except Fault String × Draft) : Except DecodeError Row := do
  let column ← Decoder.readable member.1
  return row.insert column (← Cell.decode member.2)

theorem foldlM_takeMember_eq_ok_iff {drafts : List (Except Fault String × Draft)} :
    drafts.foldlM takeMember start = .ok row ↔
      (∀ member ∈ drafts, member.2.IsScalar) ∧ ∃ members, Draft.HoldMembers drafts members ∧
        members.foldl (fun row (column, value) => row.insert column (Cell.ofJson value)) start =
          row := by
  induction drafts generalizing start with
  | nil =>
      constructor
      · intro h
        exact ⟨List.forall_mem_nil _, [], .nil, Except.ok.inj h⟩
      · rintro ⟨-, _, ⟨⟩, rfl⟩
        rfl
  | cons member rest ih =>
      rw [List.foldlM_cons, bind_eq_ok, List.forall_mem_cons]
      simp only [ih, takeMember, bind_eq_ok, Decoder.readable_eq_ok_iff, Cell.decode_eq_ok_iff]
      constructor
      · rintro ⟨_, ⟨column, hname, _, ⟨hscalar, value, hholds, rfl⟩, hinsert⟩, hscalars, members,
          hrest, rfl⟩
        cases hinsert
        obtain ⟨_, value⟩ := member
        cases hname
        exact ⟨⟨hscalar, hscalars⟩, _ :: members, .cons hholds hrest, rfl⟩
      · rintro ⟨⟨hscalar, hscalars⟩, _, _ | ⟨hholds, hrest⟩, rfl⟩
        exact ⟨_, ⟨_, rfl, _, ⟨hscalar, _, hholds, rfl⟩, rfl⟩, hscalars, _, hrest, rfl⟩

theorem decode_eq_ok_iff : decode draft = .ok row ↔
    draft.IsScalarRow ∧ ∃ members, draft.HoldsRow members ∧ ofMembers members = row := by
  cases draft with
  | object drafts ending =>
      change (drafts.foldlM takeMember OrderedMap.empty >>= fun row => Decoder.close row ending) =
        .ok row ↔ _
      rw [bind_eq_ok]
      simp only [foldlM_takeMember_eq_ok_iff]
      constructor
      · rintro ⟨_, ⟨hscalar, members, hmembers, rfl⟩, hclose⟩
        cases ending with
        | closed => exact ⟨hscalar, members, .object hmembers, Except.ok.inj hclose⟩
        | cut => cases hclose
      · rintro ⟨hscalar, members, ⟨hmembers⟩, rfl⟩
        exact ⟨_, ⟨hscalar, members, hmembers, rfl⟩, rfl⟩
  | null | bool | numeral | string | array | broken =>
      constructor
      · intro h
        simp only [decode] at h
        exact (Decoder.mismatch_ne_ok _ _ _ h).elim
      · rintro ⟨⟨⟩, -⟩

theorem mapM_decode_eq_ok_iff {drafts : List Draft} :
    drafts.mapM decode = .ok rows ↔ (∀ item ∈ drafts, item.IsScalarRow) ∧
      ∃ written, List.Forall₂ Draft.HoldsRow drafts written ∧ written.map ofMembers = rows := by
  induction drafts generalizing rows with
  | nil =>
      constructor
      · intro h
        exact ⟨List.forall_mem_nil _, [], .nil, Except.ok.inj h⟩
      · rintro ⟨-, _, ⟨⟩, rfl⟩
        rfl
  | cons item rest ih =>
      rw [List.mapM_cons, bind_eq_ok, List.forall_mem_cons]
      simp only [bind_eq_ok, ih, decode_eq_ok_iff]
      constructor
      · rintro ⟨_, ⟨hrow, members, hmembers, rfl⟩, _, ⟨hrest, written, hwritten, rfl⟩, hrows⟩
        exact ⟨⟨hrow, hrest⟩, members :: written, .cons hmembers hwritten, Except.ok.inj hrows⟩
      · rintro ⟨⟨hrow, hrest⟩, _, _ | ⟨hmembers, hwritten⟩, rfl⟩
        exact ⟨_, ⟨hrow, _, hmembers, rfl⟩, _, ⟨hrest, _, hwritten, rfl⟩, rfl⟩

/-- What is decoded directly are the rows that are written, if no cell has parts. -/
theorem decodeTable_eq_ok_iff : decodeTable draft = .ok rows ↔
    draft.IsScalarTable ∧ ∃ written, draft.HoldsTable written ∧ written.map ofMembers = rows := by
  cases draft with
  | array drafts ending =>
      rw [decodeTable, Decoder.list, bind_eq_ok]
      simp only [mapM_decode_eq_ok_iff]
      constructor
      · rintro ⟨_, ⟨hscalar, written, hwritten, rfl⟩, hclose⟩
        cases ending with
        | closed => exact ⟨hscalar, written, .array hwritten, Except.ok.inj hclose⟩
        | cut => cases hclose
      · rintro ⟨hscalar, written, ⟨hwritten⟩, rfl⟩
        exact ⟨_, ⟨hscalar, written, hwritten, rfl⟩, rfl⟩
  | null | bool | numeral | string | object | broken =>
      constructor
      · intro h
        simp only [decodeTable, Decoder.list] at h
        exact (Decoder.mismatch_ne_ok _ _ _ h).elim
      · rintro ⟨⟨⟩, -⟩

end Row

/-! ## Loading -/

namespace Json

theorem Draft.Holds.ofDraft_eq {value : Json} (h : draft.Holds value) (hscalar : draft.IsScalar)
    (depth : Nat) : ofDraft depth draft = .ok value := by
  cases h with
  | null | bool | numeral | string => rfl
  | array | object => exact hscalar.elim

theorem Draft.HoldMembers.ofMembers_eq {drafts : List (Except Fault String × Draft)}
    {members : List (String × Json)} (h : Draft.HoldMembers drafts members)
    (hscalar : ∀ member ∈ drafts, member.2.IsScalar) (depth : Nat)
    (before : List (String × Json)) :
    ofMembers depth before drafts =
      .ok (members.foldl (fun before entry => putEntry entry.1 entry.2 before) before) := by
  induction members generalizing drafts before with
  | nil =>
      cases h
      rfl
  | cons member rest ih =>
      cases h with
      | cons head tail =>
          obtain ⟨hhead, htail⟩ := List.forall_mem_cons.mp hscalar
          rw [ofMembers, head.ofDraft_eq hhead]
          exact ih tail htail _

/-- The object of a row, with its members gathered. -/
def gathered (members : List (String × Json)) : Json :=
  .object (OrderedMap.ofList members).entries

theorem Draft.HoldsRow.ofDraft_eq {members : List (String × Json)} (h : draft.HoldsRow members)
    (hscalar : draft.IsScalarRow) {depth : Nat} (hdepth : 1 < depth) :
    ofDraft depth draft = .ok (gathered members) := by
  cases h with
  | object hmembers =>
      have hgathered := hmembers.ofMembers_eq hscalar (depth - 1) []
      rw [ofDraft, if_neg (Nat.not_le.mpr hdepth), hgathered, gathered, OrderedMap.ofList,
        OrderedMap.entries_foldl_insert_eq]
      rfl

theorem ofItems_eq {drafts : List Draft} {written : List (List (String × Json))}
    (h : List.Forall₂ Draft.HoldsRow drafts written)
    (hscalar : ∀ item ∈ drafts, item.IsScalarRow) {depth : Nat} (hdepth : 1 < depth) :
    ofItems depth drafts = .ok (written.map gathered) := by
  induction h with
  | nil => rfl
  | cons head tail ih =>
      obtain ⟨hhead, htail⟩ := List.forall_mem_cons.mp hscalar
      rw [ofItems, head.ofDraft_eq hhead hdepth, ih htail]
      rfl

/-- A table whose cells have no parts is never nested too deeply to be read as a document. -/
theorem Draft.HoldsTable.document_eq {written : List (List (String × Json))}
    (h : draft.HoldsTable written) (hscalar : draft.IsScalarTable) :
    document draft = .ok (.array (written.map gathered)) := by
  cases h with
  | array hrows =>
      rw [document, nestingLimit, ofDraft, if_neg (by decide), ofItems_eq hrows hscalar (by decide)]
      rfl

end Json

theorem Row.ofItems_gathered (table : String) (index : Nat)
    (written : List (List (String × Json))) :
    ofItems table index (written.map gathered) = .ok (written.map ofMembers) := by
  induction written generalizing index with
  | nil => rfl
  | cons members rest ih =>
      rw [List.map_cons, gathered, ofItems, ih, ofMembers_gathered]
      rfl

namespace Source

/-- Texts are decoded directly as rows exactly if they are documents that are lists of objects
without nested values, also under a name that comes again; and the rows are those of the one table
that is loaded from the text. -/
theorem decodeTable_run_agrees (name content : String) :
    ((∃ rows, Row.decodeTable.run content = .ok rows) ↔
        (∃ document, Json.parse content = .ok document) ∧
          (Draft.ofText content.toList).1.IsScalarTable) ∧
      ∀ rows, Row.decodeTable.run content = .ok rows →
        ofJson name content = .ok (single name rows) := by
  refine ⟨⟨?_, ?_⟩, ?_⟩
  · rintro ⟨rows, hrows⟩
    obtain ⟨draft, htext, hdecode⟩ := Decoder.run_eq_ok_iff.mp hrows
    obtain ⟨hscalar, written, hwritten, -⟩ := Row.decodeTable_eq_ok_iff.mp hdecode
    have hdocument := hwritten.document_eq hscalar
    exact ⟨⟨_, Decoder.run_eq_ok_iff.mpr ⟨draft, htext, hdocument⟩⟩, htext ▸ hscalar⟩
  · rintro ⟨⟨document, hparse⟩, hscalar⟩
    obtain ⟨draft, htext, hholds⟩ := exists_holds_of_parse hparse
    rw [htext] at hscalar
    obtain ⟨written, hwritten⟩ := hholds.exists_holdsTable hscalar
    have hdecode := Row.decodeTable_eq_ok_iff.mpr ⟨hscalar, written, hwritten, rfl⟩
    exact ⟨_, Decoder.run_eq_ok_iff.mpr ⟨draft, htext, hdecode⟩⟩
  · intro rows hrows
    obtain ⟨draft, htext, hdecode⟩ := Decoder.run_eq_ok_iff.mp hrows
    obtain ⟨hscalar, written, hwritten, rfl⟩ := Row.decodeTable_eq_ok_iff.mp hdecode
    have hparse : Json.parse content = .ok (.array (written.map gathered)) :=
      Decoder.run_eq_ok_iff.mpr ⟨draft, htext, hwritten.document_eq hscalar⟩
    rw [ofJson, hparse]
    change (do return single name (← Row.ofItems name 1 (written.map gathered))).mapError
      SourceError.invalidData = _
    rw [Row.ofItems_gathered]
    rfl

/-- The later cell of a column that comes twice stands in the first place, and a negative zero
keeps its sign. -/
theorem decodeTable_run_agrees_repeated :
    Row.decodeTable.run "[\x7b\"a\":1,\"b\":true,\"a\":-0\x7d, \x7b\"c\":null\x7d]" =
        .ok [.ofList [("a", .number .negativeZero), ("b", .text "true")], .ofList [("c", .null)]] ∧
      ofJson "t" "[\x7b\"a\":1,\"b\":true,\"a\":-0\x7d, \x7b\"c\":null\x7d]" =
        .ok (single "t"
          [.ofList [("a", .number .negativeZero), ("b", .text "true")],
            .ofList [("c", .null)]]) := by
  have hrows : (Row.decodeTable.run
      "[\x7b\"a\":1,\"b\":true,\"a\":-0\x7d, \x7b\"c\":null\x7d]").toOption =
      some [.ofList [("a", .number .negativeZero), ("b", .text "true")],
        .ofList [("c", .null)]] := by decide +kernel
  cases hresult : Row.decodeTable.run "[\x7b\"a\":1,\"b\":true,\"a\":-0\x7d, \x7b\"c\":null\x7d]" with
  | error => rw [hresult] at hrows; cases hrows
  | ok rows =>
      rw [hresult] at hrows
      obtain rfl := Option.some.inj hrows
      exact ⟨rfl, (decodeTable_run_agrees "t" _).2 _ hresult⟩

end Source

end TableQuery
