import Std.Data.HashMap.Lemmas
import TableQuery.Proofs.Source.JsonGrammar
import TableQuery.Source.Delimited
import TableQuery.Source.Workbook

/-!
# Names and rows of tables in step

The tables of a file can be kept in two parts, a list of names in the order of
the file and the rows under each name. Only a name that is new to the second part
goes into the first, and nothing but this keeps the two in step. It is shown here
that they stay in step under every addition, and that what is seen of the two
parts (the tables listed, the first table, the table of a name) is what is seen
of the tables of a source when they are added to it in the same order.
-/

namespace TableQuery

/-- The names of tables in the order of their file, and the rows under each name. -/
structure Catalog where
  names : List String
  rows : Std.HashMap String (List Row)

namespace Catalog

def empty : Catalog := ⟨[], ∅⟩

/-- Adds a table. Its name is new in the list only if it is new in the map. -/
def push (catalog : Catalog) (name : String) (rows : List Row) : Catalog where
  names := if catalog.rows[name]?.isNone then catalog.names ++ [name] else catalog.names
  rows := catalog.rows.insert name rows

/-- The catalog of some tables, added one after the other. -/
def ofTables (tables : List (String × List Row)) : Catalog :=
  tables.foldl (fun catalog table => catalog.push table.1 table.2) empty

def first? (catalog : Catalog) : Option (String × List Row) := do
  let name ← catalog.names.head?
  let rows ← catalog.rows[name]?
  return (name, rows)

/-- A name without rows would be listed with a count of zero. -/
def summaries (catalog : Catalog) : List TableSummary :=
  catalog.names.map fun name => ⟨name, catalog.rows[name]?.elim 0 List.length⟩

def select (catalog : Catalog) : Option String → Except SourceError (String × List Row)
  | some name =>
    match catalog.rows[name]? with
    | some rows => .ok (name, rows)
    | none => .error (.unknownTable name)
  | none =>
    match catalog.first? with
    | some table => .ok table
    | none => .error .noTables

/-- The names are pairwise distinct, and they are the names that have rows. -/
structure InStep (catalog : Catalog) : Prop where
  nodup : catalog.names.Nodup
  mem_names : ∀ name, name ∈ catalog.names ↔ name ∈ catalog.rows

/-- The names and the rows are those of a source. -/
structure Agrees (catalog : Catalog) (source : Source) : Prop where
  names_eq : catalog.names = source.names
  rows_eq : ∀ name, catalog.rows[name]? = source.get? name

variable {catalog : Catalog} {source : Source} {tables : List (String × List Row)}

/-! ## Step by step -/

theorem inStep_empty : empty.InStep where
  nodup := List.nodup_nil
  mem_names name := by simp [empty]

theorem InStep.push (h : catalog.InStep) (name : String) (rows : List Row) :
    (catalog.push name rows).InStep := by
  -- By the invariant before the step, a name without rows is one that is not listed.
  have hnew : catalog.rows[name]?.isNone ↔ name ∉ catalog.names := by
    rw [h.mem_names, ← Std.HashMap.isSome_getElem?_iff_mem, Option.not_isSome_iff_eq_none,
      Option.isNone_iff_eq_none]
  constructor
  · rw [Catalog.push]
    split
    · next hname =>
      rw [List.nodup_append_comm]
      exact List.nodup_cons.mpr ⟨hnew.mp hname, h.nodup⟩
    · exact h.nodup
  · intro other
    simp only [Catalog.push, Std.HashMap.mem_insert, beq_iff_eq, ← h.mem_names]
    by_cases hname : name ∈ catalog.names
    · rw [if_neg (hnew.not_left.mpr hname), iff_or_self]
      rintro rfl
      exact hname
    · rw [if_pos (hnew.mpr hname), List.mem_append, List.mem_singleton, or_comm, eq_comm]

theorem agrees_empty : empty.Agrees OrderedMap.empty where
  names_eq := rfl
  rows_eq name := by simp [empty]

theorem Agrees.push (h : catalog.Agrees source) (name : String) (rows : List Row) :
    (catalog.push name rows).Agrees (source.insert name rows) := by
  constructor
  · simp only [Catalog.push, OrderedMap.names_insert, h.rows_eq, h.names_eq,
      Option.isNone_iff_eq_none, OrderedMap.get?_eq_none_iff, ite_not]
  · intro other
    rw [Catalog.push, Std.HashMap.getElem?_insert, OrderedMap.get?_insert, h.rows_eq]
    by_cases hname : other = name
    · rw [if_pos hname, if_pos (beq_iff_eq.mpr hname.symm)]
    · rw [if_neg hname, if_neg (hname ∘ Eq.symm ∘ beq_iff_eq.mp)]

theorem inStep_ofTables (tables : List (String × List Row)) : (ofTables tables).InStep :=
  List.foldlRecOn tables _ inStep_empty fun _ h table _ => h.push table.1 table.2

theorem agrees_ofTables (tables : List (String × List Row)) :
    (ofTables tables).Agrees (.ofList tables) := by
  induction tables using List.reverseRecOn with
  | nil => exact agrees_empty
  | append_singleton tables table ih =>
      rw [OrderedMap.ofList_concat, ofTables, List.foldl_append]
      exact ih.push table.1 table.2

/-! ## What is seen of tables that agree -/

theorem Agrees.first?_eq (h : catalog.Agrees source) : catalog.first? = source.first? := by
  have hrows : ∀ table ∈ source.entries, source.get? table.1 = some table.2 :=
    fun _ => OrderedMap.get?_eq_some_iff.mpr
  rw [first?, h.names_eq, Source.first?, OrderedMap.names]
  cases hentries : source.entries with
  | nil => rfl
  | cons table rest =>
      have htable : catalog.rows[table.1]? = some table.2 := by
        rw [h.rows_eq, hrows table (hentries ▸ List.mem_cons_self)]
      simp [htable]

theorem Agrees.summaries_eq (h : catalog.Agrees source) :
    catalog.summaries = source.summaries := by
  rw [summaries, h.names_eq, Source.summaries, OrderedMap.names, List.map_map]
  refine List.map_congr_left fun table htable => ?_
  rw [Function.comp_apply, h.rows_eq, OrderedMap.get?_eq_some_iff.mpr htable]
  rfl

theorem Agrees.select_eq (h : catalog.Agrees source) (name : Option String) :
    catalog.select name = source.select name := by
  cases name with
  | none =>
      rw [select, h.first?_eq]
      rfl
  | some name =>
      rw [select, h.rows_eq]
      rfl

end Catalog

namespace Source

/-- How a source shows the tables that were added to it one after the other. A name that came again
stands where it came first, with the rows that came last, and the two parts in which the tables can
be kept show the same. -/
structure Lists (source : Source) (tables : List (String × List Row)) : Prop where
  names_nodup : source.names.Nodup
  names_eq : source.names = (tables.map Prod.fst).eraseDups
  catalog_inStep : (Catalog.ofTables tables).InStep
  catalog_agrees : (Catalog.ofTables tables).Agrees source
  catalog_summaries : (Catalog.ofTables tables).summaries = source.summaries
  catalog_first : (Catalog.ofTables tables).first? = source.first?
  catalog_select (name : Option String) :
    (Catalog.ofTables tables).select name = source.select name
  summaries : List.Forall₂
    (fun name summary => summary.name = name ∧
      ∃ rows, source.select (some name) = .ok (name, rows) ∧ summary.rows = rows.length)
    source.names source.summaries
  select_name : ∀ name ∈ source.names, ∃ rows, findEntry name tables.reverse = some rows ∧
    source.select (some name) = .ok (name, rows)
  select_other : ∀ name ∉ source.names, source.select (some name) = .error (.unknownTable name)
  select_first : source.names ≠ [] → ∃ table, source.first? = some table ∧
    source.names.head? = some table.1 ∧ source.select none = .ok table ∧
      source.select (some table.1) = .ok table
  select_none : source.names = [] → source.first? = none ∧ source.select none = .error .noTables

variable {source : Source} {name : String}

theorem select_of_get?_eq_some {rows : List Row} (h : source.get? name = some rows) :
    source.select (some name) = .ok (name, rows) := by
  rw [select, h]

theorem select_of_mem {table : String × List Row} (h : table ∈ source.entries) :
    source.select (some table.1) = .ok table :=
  select_of_get?_eq_some (OrderedMap.get?_eq_some_iff.mpr h)

theorem lists_ofList (tables : List (String × List Row)) :
    Lists (OrderedMap.ofList tables) tables where
  names_nodup := (OrderedMap.ofList tables).nodup
  names_eq := OrderedMap.names_ofList tables
  catalog_inStep := Catalog.inStep_ofTables tables
  catalog_agrees := Catalog.agrees_ofTables tables
  catalog_summaries := (Catalog.agrees_ofTables tables).summaries_eq
  catalog_first := (Catalog.agrees_ofTables tables).first?_eq
  catalog_select := (Catalog.agrees_ofTables tables).select_eq
  summaries := by
    rw [OrderedMap.names, Source.summaries, List.forall₂_map_left_iff, List.forall₂_map_right_iff,
      List.forall₂_same]
    exact fun table htable => ⟨rfl, table.2, select_of_mem htable, rfl⟩
  select_name name hname := by
    obtain ⟨rows, hrows⟩ := OrderedMap.mem_names_iff.mp hname
    exact ⟨rows, OrderedMap.get?_ofList name tables ▸ hrows, select_of_get?_eq_some hrows⟩
  select_other name hname := by
    rw [select, OrderedMap.get?_eq_none_iff.mpr hname]
  select_first h := by
    cases hentries : (OrderedMap.ofList tables).entries with
    | nil => exact absurd (by rw [OrderedMap.names, hentries]; rfl) h
    | cons table rest =>
        have hfirst : first? (OrderedMap.ofList tables) = some table := by
          rw [first?, hentries, List.head?_cons]
        refine ⟨table, hfirst, ?_, ?_, select_of_mem (hentries ▸ List.mem_cons_self)⟩
        · rw [OrderedMap.names, hentries, List.map_cons, List.head?_cons]
        · rw [select, hfirst]
  select_none h := by
    have hfirst : first? (OrderedMap.ofList tables) = none := by
      rw [first?, List.map_eq_nil_iff.mp h, List.head?_nil]
    exact ⟨hfirst, by rw [select, hfirst]⟩

theorem lists_entries (source : Source) : source.Lists source.entries := by
  have hlists := lists_ofList source.entries
  rwa [OrderedMap.entries_inj.mp (OrderedMap.entries_ofList source.nodup)] at hlists

/-- Whatever a source is loaded from, its names and its rows are in step. A delimited text gives one
table, a workbook a table for every sheet, and a document the tables it stands for, in which a table
that came again has already taken its place. -/
theorem loaded_lists :
    (∀ name delimiter content, (ofDelimited name delimiter content).Lists
        [(name, rowsOfRecords (Delimited.records delimiter
          (Delimited.dropMark (Delimited.dropMark content.toList))))]) ∧
      (∀ name content source, ofJson name content = .ok source →
        source.Lists source.entries ∧ ∃ draft document,
          Json.Draft.ofText content.toList = (draft, false) ∧ draft.Holds document ∧
            document.LoadsAsSource name source) ∧
      ∀ sheets : List Sheet, (ofSheets sheets).Lists
        (sheets.map fun sheet => (sheet.name, sheet.grid.rows)) := by
  refine ⟨fun name delimiter content => lists_ofList [(name, _)], ?_, ?_⟩
  · intro name content source hload
    refine ⟨lists_entries source, ?_⟩
    rw [ofJson] at hload
    cases hparse : Json.parse content with
    | error => rw [hparse] at hload; cases hload
    | ok document =>
        obtain ⟨draft, htext, hholds⟩ := Json.exists_holds_of_parse hparse
        refine ⟨draft, document, htext, hholds, (ofDocument_eq_ok_iff hholds).mp ?_⟩
        rw [hparse] at hload
        change (ofDocument name document).mapError SourceError.invalidData = .ok source at hload
        cases hdocument : ofDocument name document with
        | error => rw [hdocument] at hload; cases hload
        | ok result =>
            rw [hdocument] at hload
            obtain rfl : result = source := Except.ok.inj hload
            rfl
  · intro sheets
    have hsheets : ofSheets sheets =
        .ofList (sheets.map fun sheet => (sheet.name, sheet.grid.rows)) := by
      rw [ofSheets, OrderedMap.ofList, List.foldl_map]
    exact hsheets ▸ lists_ofList _

/-- A table that comes again in a document has lost its rows to the later one, and stands first. -/
theorem loaded_lists_repeated :
    ofJson "t" "\x7b\"u\":[\x7b\"a\":1\x7d],\"v\":[\x7b\x7d],\"u\":[]\x7d" =
        .ok (.ofList [("u", []), ("v", [.empty])]) ∧
      Lists (.ofList [("u", []), ("v", [.empty])]) [("u", []), ("v", [.empty])] := by
  have hload : (ofJson "t"
      "\x7b\"u\":[\x7b\"a\":1\x7d],\"v\":[\x7b\x7d],\"u\":[]\x7d").toOption =
      some (.ofList [("u", []), ("v", [.empty])]) := by decide +kernel
  cases hresult : ofJson "t"
      "\x7b\"u\":[\x7b\"a\":1\x7d],\"v\":[\x7b\x7d],\"u\":[]\x7d" with
  | error => rw [hresult] at hload; cases hload
  | ok source =>
      rw [hresult] at hload
      obtain rfl := Option.some.inj hload
      exact ⟨rfl, (loaded_lists.2.1 "t" _ _ hresult).1⟩

end Source

end TableQuery
