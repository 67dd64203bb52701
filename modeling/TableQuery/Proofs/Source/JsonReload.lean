import Mathlib.Data.List.Forall2
import TableQuery.Export.Basic
import TableQuery.Proofs.Json.Decode
import TableQuery.Proofs.Json.Reread
import TableQuery.Proofs.OrderedMap
import TableQuery.Source.Json

/-!
# Exported rows load again from JSON

Rows printed as JSON load as one table with the same columns, texts and empty
cells. Only numbers may change, by as much as `Number.Rereads` says: the reader
scales digits with more than one rounding. The proof follows the nesting of the
text, a cell in a row in a table, and at each level what the draft of the text is
taken for is given together with what it loads as.
-/

namespace TableQuery

open Json (Numeral)

/-! ## Cells -/

namespace Cell

/-- A cell is no number, or a finite one. -/
def isFinite : Cell → Bool
  | .number x => x.isFinite
  | _ => true

/-- How a cell may come back: only a number may change. -/
def Rereads : Cell → Cell → Prop
  | .text s, .text t => s = t
  | .number x, .number y => x.Rereads y
  | .null, .null => True
  | _, _ => False

/-- A cell that is kept when it is printed and read back. -/
def IsKept : Cell → Prop
  | .number (.signed _ m) => m.IsKept
  | _ => True

theorem Rereads.sameValue {cell loaded : Cell} (h : cell.Rereads loaded) (hkept : cell.IsKept) :
    cell.sameValue loaded = true := by
  cases cell with
  | text s =>
      cases loaded with
      | text t => exact beq_iff_eq.mpr h
      | number | null => exact h.elim
  | number x =>
      cases loaded with
      | number y =>
          cases x with
          | nan => obtain ⟨-, ⟨_, _, hplace, -⟩, -⟩ := h; cases hplace
          | signed negative m => exact h.numericEq_of_isKept negative m rfl hkept
      | text | null => exact h.elim
  | null =>
      cases loaded with
      | null => rfl
      | text | number => exact h.elim

variable {cell : Cell}

theorem readsAs_of_mem_numerals (h : cell.isFinite) :
    ∀ n ∈ cell.toJson.numerals, n.ReadsAs n.reread := by
  intro n hn
  cases cell with
  | text s => simp [toJson, Json.numerals] at hn
  | null => simp [toJson, Json.numerals] at hn
  | number x =>
      obtain ⟨m, m', hm, hreads, -⟩ := Numeral.exists_rereads h
      obtain rfl : n = m := by simpa [toJson, hm, Json.numerals] using hn
      rwa [hreads.reread_eq]

theorem exists_ofDraft (h : cell.isFinite) (depth : Nat) :
    ∃ value, Json.ofDraft depth (cell.toJson.toDraft Numeral.reread) = .ok value ∧
      cell.Rereads (ofJson value) := by
  cases cell with
  | text s => exact ⟨.string s, by simp [toJson, Json.toDraft, Json.ofDraft], rfl⟩
  | null => exact ⟨.null, by simp [toJson, Json.toDraft, Json.ofDraft], trivial⟩
  | number x =>
      obtain ⟨n, n', hn, hreads, hrereads⟩ := Numeral.exists_rereads h
      refine ⟨.numeral n', ?_, hrereads⟩
      simp [toJson, hn, Json.toDraft, Json.ofDraft, hreads.reread_eq]

end Cell

/-! ## Rows -/

namespace Row

/-- How a row may come back: under the same columns, in their order. -/
def Rereads (row loaded : Row) : Prop :=
  List.Forall₂ (fun entry loaded => entry.1 = loaded.1 ∧ entry.2.Rereads loaded.2)
    row.entries loaded.entries

variable {row loaded : Row}

theorem Rereads.names_eq (h : row.Rereads loaded) : loaded.names = row.names := by
  rw [eq_comm, ← List.forall₂_eq_eq_eq, OrderedMap.names, OrderedMap.names,
    List.forall₂_map_left_iff, List.forall₂_map_right_iff]
  exact h.imp fun _ _ => And.left

theorem Rereads.sameValue (h : row.Rereads loaded) (hkept : ∀ entry ∈ row.entries, entry.2.IsKept) :
    row.sameValue loaded = true := by
  rw [Row.sameValue, h.names_eq, Bool.and_eq_true, beq_iff_eq, List.all_eq_true]
  refine ⟨rfl, ?_⟩
  rintro ⟨entry, loadedEntry⟩ hpair
  obtain ⟨-, hrereads⟩ := (List.forall₂_iff_zip.mp h).2 hpair
  exact hrereads.sameValue (hkept entry (List.of_mem_zip hpair).1)

theorem readsAs_of_mem_numerals (h : ∀ entry ∈ row.entries, entry.2.isFinite) :
    ∀ n ∈ row.toJson.numerals, n.ReadsAs n.reread := by
  rw [toJson, Json.numerals, Json.numeralsOfMembers_eq_flatMap, List.flatMap_map]
  intro n hn
  obtain ⟨entry, hentry, hn⟩ := List.mem_flatMap.mp hn
  exact Cell.readsAs_of_mem_numerals (h entry hentry) n hn

/-- The members of an object are added behind those before them, for all names are distinct. -/
theorem exists_ofMembers {entries : List (String × Cell)}
    (h : ∀ entry ∈ entries, entry.2.isFinite) (depth : Nat) (before : List (String × Json))
    (hdistinct : (before.map Prod.fst ++ entries.map Prod.fst).Nodup) :
    ∃ members, Json.ofMembers depth before (Json.toMemberDrafts Numeral.reread
        (entries.map fun (column, cell) => (column, cell.toJson))) = .ok (before ++ members) ∧
      List.Forall₂ (fun entry member => entry.1 = member.1 ∧ entry.2.Rereads (Cell.ofJson member.2))
        entries members := by
  induction entries generalizing before with
  | nil => exact ⟨[], by simp [Json.toMemberDrafts, Json.ofMembers], .nil⟩
  | cons entry rest ih =>
      obtain ⟨column, cell⟩ := entry
      rw [List.forall_mem_cons] at h
      have hnew : column ∉ before.map Prod.fst := by
        intro hmem
        exact (List.nodup_append.mp hdistinct).2.2 column hmem column (by simp) rfl
      obtain ⟨value, hvalue, hrereads⟩ := Cell.exists_ofDraft h.1 depth
      obtain ⟨members, hmembers, hrest⟩ := ih h.2 (before ++ [(column, value)])
        (by simpa using hdistinct)
      refine ⟨(column, value) :: members, ?_, .cons ⟨rfl, hrereads⟩ hrest⟩
      rw [List.append_assoc, List.singleton_append] at hmembers
      rw [← hmembers, ← putEntry_of_not_mem value hnew, List.map_cons, Json.toMemberDrafts,
        Json.ofMembers, hvalue]
      rfl

theorem entries_ofMembers {members : List (String × Json)} (h : (members.map Prod.fst).Nodup) :
    (ofMembers members).entries = members.map fun (column, value) => (column, Cell.ofJson value) := by
  have hlist : ofMembers members =
      OrderedMap.ofList (members.map fun (column, value) => (column, Cell.ofJson value)) := by
    rw [OrderedMap.ofList, List.foldl_map]
    rfl
  rw [hlist, OrderedMap.entries_ofList]
  simpa [Function.comp_def] using h

/-- The draft of a row is taken for an object that loads as the row. -/
theorem exists_ofDraft (h : ∀ entry ∈ row.entries, entry.2.isFinite) {depth : Nat}
    (hdepth : 1 < depth) :
    ∃ members, Json.ofDraft depth (row.toJson.toDraft Numeral.reread) = .ok (.object members) ∧
      row.Rereads (ofMembers members) := by
  obtain ⟨members, hmembers, hrereads⟩ := exists_ofMembers h (depth - 1) [] row.nodup
  refine ⟨members, ?_, ?_⟩
  · rw [toJson, Json.toDraft, Json.ofDraft, if_neg (Nat.not_le.mpr hdepth), hmembers]
    rfl
  · have hnames : row.names = members.map Prod.fst := by
      rw [← List.forall₂_eq_eq_eq, OrderedMap.names, List.forall₂_map_left_iff,
        List.forall₂_map_right_iff]
      exact hrereads.imp fun _ _ => And.left
    rw [Rereads, entries_ofMembers (hnames ▸ row.nodup), List.forall₂_map_right_iff]
    exact hrereads

end Row

/-! ## Tables -/

namespace Source

theorem exists_ofItems {rows : List Row} (h : ∀ row ∈ rows, ∀ entry ∈ row.entries, entry.2.isFinite)
    {depth : Nat} (hdepth : 1 < depth) (name : String) :
    ∃ items loaded,
      Json.ofItems depth (Json.toDrafts Numeral.reread (rows.map Row.toJson)) = .ok items ∧
      (∀ index, Row.ofItems name index items = .ok loaded) ∧
      List.Forall₂ Row.Rereads rows loaded := by
  induction rows with
  | nil => exact ⟨[], [], rfl, fun _ => rfl, .nil⟩
  | cons row rest ih =>
      rw [List.forall_mem_cons] at h
      obtain ⟨members, hmembers, hrereads⟩ := Row.exists_ofDraft h.1 hdepth
      obtain ⟨items, loaded, hitems, hloaded, hrest⟩ := ih h.2
      refine ⟨.object members :: items, Row.ofMembers members :: loaded, ?_, ?_, .cons hrereads hrest⟩
      · rw [List.map_cons, Json.toDrafts, Json.ofItems, hmembers, hitems]
        rfl
      · intro index
        rw [Row.ofItems, hloaded]
        rfl

/-- Rows whose numbers are finite load again from the JSON that they are exported as: as one table
with the rows, columns, texts and empty cells that they have, in the same order. Every number comes
back finite, with no other sign and at most two places away on the number line; a table in which all
numbers are kept comes back with equal values. -/
theorem ofJson_json (name : String) (rows : List Row)
    (h : ∀ row ∈ rows, ∀ entry ∈ row.entries, entry.2.isFinite) :
    ∃ source loaded, ofJson name (String.ofList (Export.json rows)) = .ok source ∧
      source.entries = [(name, loaded)] ∧ List.Forall₂ Row.Rereads rows loaded ∧
      ((∀ row ∈ rows, ∀ entry ∈ row.entries, entry.2.IsKept) →
        List.Forall₂ (fun row loaded => row.sameValue loaded = true) rows loaded) := by
  have hreads : ∀ n ∈ (Row.tableToJson rows).numerals, n.ReadsAs n.reread := by
    rw [Row.tableToJson, Json.numerals, Json.numeralsOfItems_eq_flatMap, List.flatMap_map]
    intro n hn
    obtain ⟨row, hrow, hn⟩ := List.mem_flatMap.mp hn
    exact Row.readsAs_of_mem_numerals (h row hrow) n hn
  obtain ⟨items, loaded, hitems, hloaded, hrereads⟩ :=
    exists_ofItems h (by decide : 1 < Json.nestingLimit - 1) name
  have hdocument : Json.parse (String.ofList (Export.json rows)) = .ok (.array items) := by
    rw [Json.parse, Json.Decoder.run, String.toList_ofList, Export.json,
      Json.Draft.ofText_pretty hreads]
    simp only [Json.document, Row.tableToJson, Json.toDraft, Json.ofDraft, hitems]
    rfl
  refine ⟨single name loaded, loaded, ?_, rfl, hrereads, ?_⟩
  · have hsource : ofDocument name (.array items) = .ok (single name loaded) := by
      rw [ofDocument, hloaded]
      rfl
    rw [ofJson, hdocument]
    exact congrArg (Except.mapError SourceError.invalidData) hsource
  · intro hkept
    rw [List.forall₂_iff_zip] at hrereads ⊢
    refine ⟨hrereads.1, fun hpair => (hrereads.2 hpair).sameValue ?_⟩
    exact hkept _ (List.of_mem_zip hpair).1

/-- A row without columns, an empty cell, a text with a quote and a line end, and a fraction. -/
theorem ofJson_json_mixed :
    (∀ row ∈ ([.empty, .ofList [("b", .null), ("a", .text "\"\n")],
        .ofList [("a", .number (.signed true (.ofDecimal 25 (-1))))]] : List Row),
      ∀ entry ∈ row.entries, entry.2.isFinite) ∧
      ∃ source loaded, ofJson "t" (String.ofList (Export.json
          [.empty, .ofList [("b", .null), ("a", .text "\"\n")],
            .ofList [("a", .number (.signed true (.ofDecimal 25 (-1))))]])) = .ok source ∧
        source.entries = [("t", loaded)] ∧
        List.Forall₂ (fun (row loaded : Row) => row.sameValue loaded = true)
          [.empty, .ofList [("b", .null), ("a", .text "\"\n")],
            .ofList [("a", .number (.signed true (.ofDecimal 25 (-1))))]] loaded := by
  have hfinite : ∀ row ∈ ([.empty, .ofList [("b", .null), ("a", .text "\"\n")],
      .ofList [("a", .number (.signed true (.ofDecimal 25 (-1))))]] : List Row),
      ∀ entry ∈ row.entries, entry.2.isFinite := by decide +kernel
  have hkept : (Magnitude.ofDecimal 25 (-1)).IsKept :=
    .inr ⟨by decide +kernel, by decide +kernel⟩
  obtain ⟨source, loaded, hload, hentries, -, hsame⟩ := ofJson_json "t" _ hfinite
  refine ⟨hfinite, source, loaded, hload, hentries, hsame ?_⟩
  rw [List.forall_mem_cons, List.forall_mem_cons, List.forall_mem_singleton]
  refine ⟨by simp [OrderedMap.empty], ?_, ?_⟩
  · rw [OrderedMap.entries_ofList (by decide), List.forall_mem_cons, List.forall_mem_singleton]
    exact ⟨trivial, trivial⟩
  · rw [OrderedMap.entries_ofList (by decide), List.forall_mem_singleton]
    exact hkept

/-- A fraction that comes back as the number next to it. -/
theorem ofJson_json_one_place_up :
    (Cell.number (.signed false (.ofDecimal 9090909090909091 (-17)))).isFinite ∧
      (ofJson "t" (String.ofList (Export.json
          [.ofList [("a", .number (.signed false (.ofDecimal 9090909090909091 (-17))))]]))).toOption =
        some (single "t"
          [.ofList [("a", .number (.signed false (.ofDecimal 9090909090909093 (-17))))]]) ∧
      Row.sameValue (.ofList [("a", .number (.signed false (.ofDecimal 9090909090909091 (-17))))])
        (.ofList [("a", .number (.signed false (.ofDecimal 9090909090909093 (-17))))]) = false :=
  ⟨by decide +kernel, by decide +kernel, by decide +kernel⟩

end Source

end TableQuery
