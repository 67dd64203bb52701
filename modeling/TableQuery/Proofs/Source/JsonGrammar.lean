import TableQuery.Proofs.Json.Document
import TableQuery.Proofs.Source.JsonReload

/-!
# Which documents hold tables

A document holds tables if it is a list of rows, or an object whose members are
lists of rows. What it loads as is said here as a relation between documents and
tables, level by level, and so is the fault of a document that holds none: the
first table that is not one decides, and in it the first item that is not a row.
Every document that can be read loads as the tables it stands for or is refused
with its first fault.
-/

namespace TableQuery

open Json.Decoder (bind_eq_ok)

theorem OrderedMap.entries_inj {α : Type} {m m' : OrderedMap α} :
    m.entries = m'.entries ↔ m = m' := by
  cases m
  cases m'
  simp

theorem bind_eq_error {ε α β : Type} {x : Except ε α} {f : α → Except ε β} {e : ε} :
    x >>= f = .error e ↔ x = .error e ∨ ∃ a, x = .ok a ∧ f a = .error e := by
  cases x <;> simp [bind, Except.bind]

namespace Json

/-! ## What a document loads as -/

/-- An item that can be a row of a table. -/
def IsRow (item : Json) : Prop := ∃ members, item = .object members

/-- A value that can be a table. -/
def IsTable (value : Json) : Prop := ∃ items, value = .array items ∧ ∀ item ∈ items, item.IsRow

/-- A document from which tables can be loaded. -/
def HoldsTables (document : Json) : Prop :=
  document.IsTable ∨ ∃ members, document = .object members ∧ ∀ member ∈ members, member.2.IsTable

inductive LoadsAsCell : Json → Cell → Prop
  | null : LoadsAsCell .null .null
  | true : LoadsAsCell (.bool true) (.text "true")
  | false : LoadsAsCell (.bool false) (.text "false")
  | numeral (n : Numeral) : LoadsAsCell (.numeral n) (.number n.toNumber)
  | string (s : String) : LoadsAsCell (.string s) (.text s)
  | array (items : List Json) :
      LoadsAsCell (.array items) (.text (String.ofList (Json.array items).compact))
  | object (members : List (String × Json)) :
      LoadsAsCell (.object members) (.text (String.ofList (Json.object members).compact))

/-- A row has the columns that are the names of the members, in their order. -/
inductive LoadsAsRow : Json → Row → Prop
  | object {members : List (String × Json)} {row : Row}
      (h : List.Forall₂ (fun member entry => member.1 = entry.1 ∧ member.2.LoadsAsCell entry.2)
        members row.entries) : LoadsAsRow (.object members) row

inductive LoadsAsTable : Json → List Row → Prop
  | array {items : List Json} {rows : List Row} (h : List.Forall₂ LoadsAsRow items rows) :
      LoadsAsTable (.array items) rows

/-- Members load as tables under their names, in their order. -/
def LoadAsTables (members : List (String × Json)) (tables : List (String × List Row)) : Prop :=
  List.Forall₂ (fun member entry => member.1 = entry.1 ∧ member.2.LoadsAsTable entry.2)
    members tables

/-- A document that is a list loads as one table under the given name. -/
inductive LoadsAsSource (name : String) : Json → Source → Prop
  | table {items : List Json} {rows : List Row} {source : Source}
      (h : LoadsAsTable (.array items) rows) (hsource : source.entries = [(name, rows)]) :
      LoadsAsSource name (.array items) source
  | tables {members : List (String × Json)} {source : Source}
      (h : LoadAsTables members source.entries) : LoadsAsSource name (.object members) source

/-! ## Why a document holds no tables -/

/-- What is wrong with a value that should be a table: that it is no list, or its first item that is
no row. -/
inductive TableFault (table : String) : Json → DataFault → Prop
  | notTable {value : Json} (h : ∀ items, value ≠ .array items) :
      TableFault table value (.notTable table)
  | notRow {before after : List Json} {item : Json} (hbefore : ∀ row ∈ before, row.IsRow)
      (hitem : ¬ item.IsRow) :
      TableFault table (.array (before ++ item :: after))
        (.notRow table (before.length + 1) item)

/-- What is wrong with a document, at the first place where it is wrong. -/
inductive FirstFault (name : String) : Json → DataFault → Prop
  | table {items : List Json} {fault : DataFault} (h : TableFault name (.array items) fault) :
      FirstFault name (.array items) fault
  | tables {before after : List (String × Json)} {table : String} {value : Json}
      {fault : DataFault} (hbefore : ∀ member ∈ before, member.2.IsTable)
      (h : TableFault table value fault) :
      FirstFault name (.object (before ++ (table, value) :: after)) fault
  | notTables {document : Json} (harray : ∀ items, document ≠ .array items)
      (hobject : ∀ members, document ≠ .object members) : FirstFault name document .notTables

/-- A fault of a table has the name of the table in its message. -/
theorem TableFault.exists_message {table : String} {value : Json} {fault : DataFault}
    (h : TableFault table value fault) : ∃ reason, fault.message = "table '" ++ table ++ reason := by
  cases h with
  | notTable => exact ⟨"' is not an array of objects", rfl⟩
  | @notRow before after item =>
      refine ⟨"' row " ++ (String.ofList (Nat.toDigits 10 (before.length + 1)) ++
        (": expected an object, found " ++ item.kindName)), ?_⟩
      simp only [DataFault.message, String.append_assoc]

theorem tableFault_iff_of_ne_array {table : String} {value : Json} {fault : DataFault}
    (h : ∀ items, value ≠ .array items) :
    TableFault table value fault ↔ fault = .notTable table := by
  constructor
  · rintro (_ | _)
    · rfl
    · exact absurd rfl (h _)
  · rintro rfl
    exact .notTable h

variable {value : Json} {items : List Json} {members : List (String × Json)}

theorem loadsAsCell_iff {cell : Cell} : value.LoadsAsCell cell ↔ Cell.ofJson value = cell := by
  constructor
  · rintro (_ | _) <;> rfl
  · rintro rfl
    cases value with
    | null => exact .null
    | bool b =>
        cases b with
        | true => exact .true
        | false => exact .false
    | numeral n => exact .numeral n
    | string s => exact .string s
    | array items => exact .array items
    | object members => exact .object members

theorem loadsAsRow_object_iff {row : Row} (h : (members.map Prod.fst).Nodup) :
    (Json.object members).LoadsAsRow row ↔ Row.ofMembers members = row := by
  have hentries : Row.ofMembers members = row ↔
      List.Forall₂ (fun member entry => member.1 = entry.1 ∧ member.2.LoadsAsCell entry.2)
        members row.entries := by
    rw [← OrderedMap.entries_inj, Row.entries_ofMembers h, ← List.forall₂_eq_eq_eq,
      List.forall₂_map_left_iff]
    simp only [Prod.ext_iff, loadsAsCell_iff]
  constructor
  · rintro ⟨h⟩
    exact hentries.mpr h
  · exact fun h => .object (hentries.mp h)

end Json

/-! ## Loading -/

/-- The first place with a property comes first, or after an item that may stand before it. -/
theorem exists_first_cons_iff {α : Type} {P : α → Prop} {Q : Nat → α → Prop} {a : α}
    {rest : List α} :
    (∃ before x after, a :: rest = before ++ x :: after ∧ (∀ b ∈ before, P b) ∧
        Q before.length x) ↔
      Q 0 a ∨ P a ∧ ∃ before x after, rest = before ++ x :: after ∧ (∀ b ∈ before, P b) ∧
        Q (before.length + 1) x := by
  constructor
  · rintro ⟨before, x, after, hlist, hbefore, hx⟩
    cases before with
    | nil =>
        obtain ⟨rfl, rfl⟩ := List.cons.inj hlist
        exact .inl hx
    | cons b before =>
        obtain ⟨rfl, rfl⟩ := List.cons.inj hlist
        rw [List.forall_mem_cons] at hbefore
        exact .inr ⟨hbefore.1, before, x, after, rfl, hbefore.2, hx⟩
  · rintro (ha | ⟨ha, before, x, after, rfl, hbefore, hx⟩)
    · exact ⟨[], a, rest, rfl, List.forall_mem_nil P, ha⟩
    · exact ⟨a :: before, x, after, rfl, List.forall_mem_cons.mpr ⟨ha, hbefore⟩, hx⟩

open Json

/-- In each row the names of the columns are distinct. -/
def Json.ColumnsDistinct (items : List Json) : Prop :=
  ∀ members, .object members ∈ items → (members.map Prod.fst).Nodup

section Rows

variable {table : String} {index : Nat} {items : List Json} {rows : List Row} {fault : DataFault}

theorem Row.ofItems_eq_ok_iff (h : ColumnsDistinct items) :
    Row.ofItems table index items = .ok rows ↔ List.Forall₂ LoadsAsRow items rows := by
  induction items generalizing index rows with
  | nil => simp [Row.ofItems, eq_comm]
  | cons item rest ih =>
      have hrest : ColumnsDistinct rest := fun members hm => h members (List.mem_cons_of_mem _ hm)
      rw [List.forall₂_cons_left_iff]
      cases item with
      | object members =>
          rw [Row.ofItems, bind_eq_ok]
          simp only [ih hrest, loadsAsRow_object_iff (h members List.mem_cons_self), pure,
            Except.pure, Except.ok.injEq]
          grind
      | null | bool | numeral | string | array =>
          constructor
          · rintro ⟨⟩
          · rintro ⟨_, _, ⟨⟩, -⟩

theorem Row.exists_ofItems_iff :
    (∃ rows, Row.ofItems table index items = .ok rows) ↔ ∀ item ∈ items, item.IsRow := by
  induction items generalizing index with
  | nil => simp [Row.ofItems]
  | cons item rest ih =>
      rw [List.forall_mem_cons]
      cases item with
      | object members =>
          simp only [Row.ofItems, bind_eq_ok, pure, Except.pure, Except.ok.injEq]
          constructor
          · rintro ⟨_, rows, hrows, -⟩
            exact ⟨⟨members, rfl⟩, ih.mp ⟨rows, hrows⟩⟩
          · rintro ⟨-, hrest⟩
            obtain ⟨rows, hrows⟩ := ih.mpr hrest
            exact ⟨_, rows, hrows, rfl⟩
      | null | bool | numeral | string | array => simp [Row.ofItems, IsRow]

theorem Json.isTable_array_iff (table : String) :
    (Json.array items).IsTable ↔ ∃ rows, Row.ofItems table 1 items = .ok rows := by
  simp [IsTable, Row.exists_ofItems_iff]

theorem Row.ofItems_eq_error_iff :
    Row.ofItems table index items = .error fault ↔
      ∃ before item after, items = before ++ item :: after ∧ (∀ row ∈ before, row.IsRow) ∧
        ¬ item.IsRow ∧ fault = .notRow table (index + before.length) item := by
  induction items generalizing index with
  | nil => simp [Row.ofItems]
  | cons item rest ih =>
      rw [exists_first_cons_iff (Q := fun k item =>
        ¬ item.IsRow ∧ fault = .notRow table (index + k) item)]
      cases item with
      | object members =>
          have hrow : (Json.object members).IsRow := ⟨members, rfl⟩
          rw [Row.ofItems, bind_eq_error, ih]
          simp [hrow, pure, Except.pure, Nat.add_comm, Nat.add_left_comm]
      | null | bool | numeral | string | array => simp [Row.ofItems, IsRow, eq_comm]

theorem Row.ofItems_one_eq_error_iff :
    Row.ofItems table 1 items = .error fault ↔ TableFault table (.array items) fault := by
  rw [Row.ofItems_eq_error_iff]
  constructor
  · rintro ⟨before, item, after, rfl, hbefore, hitem, rfl⟩
    rw [Nat.add_comm]
    exact .notRow hbefore hitem
  · rintro (h | ⟨hbefore, hitem⟩)
    · exact absurd rfl (h items)
    · exact ⟨_, _, _, rfl, hbefore, hitem, by rw [Nat.add_comm]⟩

end Rows

namespace Source

variable {members : List (String × Json)} {source result : Source} {fault : DataFault}

theorem addTables_eq_ok_iff
    (h : ∀ member ∈ members, ∀ items, member.2 = .array items → ColumnsDistinct items) :
    addTables source members = .ok result ↔
      ∃ tables, LoadAsTables members tables ∧
        tables.foldl (fun m entry => m.insert entry.1 entry.2) source = result := by
  induction members generalizing source with
  | nil => simp [addTables, LoadAsTables]
  | cons member rest ih =>
      rw [List.forall_mem_cons] at h
      obtain ⟨name, value⟩ := member
      cases value with
      | array items =>
          rw [addTables, bind_eq_ok]
          simp only [Row.ofItems_eq_ok_iff (h.1 items rfl), ih h.2]
          constructor
          · rintro ⟨rows, hrows, tables, htables, rfl⟩
            exact ⟨(name, rows) :: tables, .cons ⟨rfl, .array hrows⟩ htables, rfl⟩
          · rintro ⟨_, _ | ⟨⟨rfl, ⟨hrows⟩⟩, htables⟩, rfl⟩
            exact ⟨_, hrows, _, htables, rfl⟩
      | null | bool | numeral | string | object =>
          constructor
          · rintro ⟨⟩
          · rintro ⟨_, _ | ⟨⟨-, ⟨⟩⟩, -⟩, -⟩

theorem exists_addTables_iff :
    (∃ result, addTables source members = .ok result) ↔ ∀ member ∈ members, member.2.IsTable := by
  induction members generalizing source with
  | nil => simp [addTables]
  | cons member rest ih =>
      obtain ⟨name, value⟩ := member
      rw [List.forall_mem_cons]
      cases value with
      | array items =>
          simp only [addTables, bind_eq_ok, isTable_array_iff name]
          constructor
          · rintro ⟨result, rows, hrows, hresult⟩
            exact ⟨⟨rows, hrows⟩, ih.mp ⟨result, hresult⟩⟩
          · rintro ⟨⟨rows, hrows⟩, hrest⟩
            obtain ⟨result, hresult⟩ := ih.mpr hrest
            exact ⟨result, rows, hrows, hresult⟩
      | null | bool | numeral | string | object => simp [addTables, IsTable]

theorem addTables_eq_error_iff :
    addTables source members = .error fault ↔
      ∃ before member after, members = before ++ member :: after ∧
        (∀ table ∈ before, table.2.IsTable) ∧ TableFault member.1 member.2 fault := by
  induction members generalizing source with
  | nil => simp [addTables]
  | cons member rest ih =>
      obtain ⟨name, value⟩ := member
      rw [exists_first_cons_iff (P := fun table : String × Json => table.2.IsTable)
        (Q := fun _ member => TableFault member.1 member.2 fault)]
      cases value with
      | array items =>
          rw [addTables, bind_eq_error, Row.ofItems_one_eq_error_iff, isTable_array_iff name]
          simp only [ih, exists_and_right]
      | null | bool | numeral | string | object =>
          rw [tableFault_iff_of_ne_array (by simp)]
          simp [addTables, IsTable, eq_comm]

theorem ofDocument_object_eq_ok_iff {name : String} (hnames : (members.map Prod.fst).Nodup)
    (h : ∀ member ∈ members, ∀ items, member.2 = .array items → ColumnsDistinct items) :
    ofDocument name (.object members) = .ok result ↔ LoadAsTables members result.entries := by
  rw [ofDocument, addTables_eq_ok_iff h]
  constructor
  · rintro ⟨tables, htables, rfl⟩
    have htableNames : tables.map Prod.fst = members.map Prod.fst := by
      rw [eq_comm, ← List.forall₂_eq_eq_eq, List.forall₂_map_left_iff, List.forall₂_map_right_iff]
      exact htables.imp fun _ _ => And.left
    have hentries := OrderedMap.entries_ofList (htableNames ▸ hnames)
    exact hentries.symm ▸ htables
  · intro htables
    exact ⟨result.entries, htables,
      OrderedMap.entries_inj.mp (OrderedMap.entries_ofList result.nodup)⟩

/-- A document loads as the tables that it stands for. -/
theorem ofDocument_eq_ok_iff {name : String} {document : Json} {draft : Draft}
    (h : draft.Holds document) :
    ofDocument name document = .ok source ↔ document.LoadsAsSource name source := by
  cases document with
  | array items =>
      have hcolumns : ColumnsDistinct items := by
        intro members hmembers
        obtain ⟨_, hrow⟩ := h.exists_holds_item hmembers
        exact hrow.names_nodup
      rw [ofDocument, bind_eq_ok]
      simp only [Row.ofItems_eq_ok_iff hcolumns, pure, Except.pure, Except.ok.injEq]
      constructor
      · rintro ⟨rows, hrows, rfl⟩
        exact .table (.array hrows) rfl
      · rintro ⟨⟨hrows⟩, hsource⟩
        exact ⟨_, hrows, OrderedMap.entries_inj.mp hsource.symm⟩
  | object members =>
      have hcolumns : ∀ member ∈ members, ∀ items, member.2 = .array items →
          ColumnsDistinct items := by
        intro member hmember items hitems fields hfields
        obtain ⟨_, htable⟩ := h.exists_holds_member hmember
        obtain ⟨_, hrow⟩ := (hitems ▸ htable).exists_holds_item hfields
        exact hrow.names_nodup
      rw [ofDocument_object_eq_ok_iff h.names_nodup hcolumns]
      constructor
      · exact .tables
      · rintro (_ | ⟨htables⟩)
        exact htables
  | null | bool | numeral | string =>
      constructor
      · rintro ⟨⟩
      · rintro ⟨⟩

/-- A document is refused with its first fault. -/
theorem ofDocument_eq_error_iff {name : String} {document : Json} :
    ofDocument name document = .error fault ↔ document.FirstFault name fault := by
  cases document with
  | array items =>
      rw [ofDocument, bind_eq_error, Row.ofItems_one_eq_error_iff]
      constructor
      · rintro (hfault | ⟨rows, -, h⟩)
        · exact .table hfault
        · cases h
      · rintro (hfault | _ | ⟨harray, -⟩)
        · exact .inl hfault
        · exact absurd rfl (harray items)
  | object members =>
      rw [ofDocument, addTables_eq_error_iff]
      constructor
      · rintro ⟨before, ⟨table, value⟩, after, rfl, hbefore, hfault⟩
        exact .tables hbefore hfault
      · rintro (_ | ⟨hbefore, hfault⟩ | ⟨-, hobject⟩)
        · exact ⟨_, _, _, rfl, hbefore, hfault⟩
        · exact absurd rfl (hobject members)
  | null | bool | numeral | string =>
      constructor
      · rintro ⟨⟩
        exact .notTables (by simp) (by simp)
      · rintro ⟨⟩
        rfl

theorem exists_ofDocument_iff {name : String} {document : Json} :
    (∃ source, ofDocument name document = .ok source) ↔ document.HoldsTables := by
  cases document with
  | array items =>
      have htable : (Json.array items).HoldsTables ↔ (Json.array items).IsTable := by
        simp [HoldsTables]
      simp only [htable, isTable_array_iff name, ofDocument, bind_eq_ok, pure, Except.pure, Except.ok.injEq]
      constructor
      · rintro ⟨_, rows, hrows, -⟩
        exact ⟨rows, hrows⟩
      · rintro ⟨rows, hrows⟩
        exact ⟨_, rows, hrows, rfl⟩
  | object members => simp [ofDocument, HoldsTables, IsTable, exists_addTables_iff]
  | null | bool | numeral | string => simp [ofDocument, HoldsTables, IsTable]

/-- What is loaded from a text that can be read as a document. The document is the one that the text
holds. It is taken exactly if it is a list of rows or an object of such lists, and then what is
loaded is what it stands for; otherwise the error is its first fault. -/
theorem ofJson_of_parse_eq_ok {content : String} {document : Json}
    (h : Json.parse content = .ok document) (name : String) :
    (∃ draft, Draft.ofText content.toList = (draft, false) ∧ draft.Holds document) ∧
      ((∃ source, ofJson name content = .ok source) ↔ document.HoldsTables) ∧
      (∀ source, ofJson name content = .ok source ↔ document.LoadsAsSource name source) ∧
      ∀ error, ofJson name content = .error error ↔
        ∃ fault, error = .invalidData fault ∧ document.FirstFault name fault := by
  obtain ⟨draft, hdraft, hholds⟩ := exists_holds_of_parse h
  have hload : ofJson name content = (ofDocument name document).mapError .invalidData := by
    rw [ofJson, h]
    rfl
  have hok : ∀ source, ofJson name content = .ok source ↔ ofDocument name document = .ok source := by
    intro source
    rw [hload]
    cases ofDocument name document <;> simp [Except.mapError]
  refine ⟨⟨draft, hdraft, hholds⟩, ?_, ?_, ?_⟩
  · simp only [hok, exists_ofDocument_iff]
  · intro source
    rw [hok, ofDocument_eq_ok_iff hholds]
  · intro error
    simp only [hload, ← ofDocument_eq_error_iff]
    cases ofDocument name document <;> simp [Except.mapError, eq_comm]

/-- A column that is there twice has its first place and its last value, and a list is a cell by its
text; in an object of tables the second item of the second table is the first that is wrong. -/
theorem ofJson_of_parse_eq_ok_repeated :
    (Json.parse (String.ofList (Json.pretty (.array [.object [("a", .string "x"),
          ("b", .array [.bool true]), ("a", .null)]]))) =
        .ok (.array [.object [("a", .null), ("b", .array [.bool true])]]) ∧
      ofJson "t" (String.ofList (Json.pretty (.array [.object [("a", .string "x"),
          ("b", .array [.bool true]), ("a", .null)]]))) =
        .ok (single "t" [.ofList [("a", .null), ("b", .text "[true]")]])) ∧
    Json.parse (String.ofList (Json.pretty (.object [("u", .array [.object []]),
          ("v", .array [.object [], .null]), ("w", .bool true)]))) =
        .ok (.object [("u", .array [.object []]), ("v", .array [.object [], .null]),
          ("w", .bool true)]) ∧
      ofJson "t" (String.ofList (Json.pretty (.object [("u", .array [.object []]),
          ("v", .array [.object [], .null]), ("w", .bool true)]))) =
        .error (.invalidData (.notRow "v" 2 .null)) := by
  have htable : Json.parse (String.ofList (Json.pretty (.array [.object [("a", .string "x"),
      ("b", .array [.bool true]), ("a", .null)]]))) =
      .ok (.array [.object [("a", .null), ("b", .array [.bool true])]]) := by
    rw [Json.parse, Json.Decoder.run, Draft.ofText_pretty_of_numerals_eq_nil rfl]
    rfl
  have htables : Json.parse (String.ofList (Json.pretty (.object [("u", .array [.object []]),
      ("v", .array [.object [], .null]), ("w", .bool true)]))) =
      .ok (.object [("u", .array [.object []]), ("v", .array [.object [], .null]),
        ("w", .bool true)]) := by
    rw [Json.parse, Json.Decoder.run, Draft.ofText_pretty_of_numerals_eq_nil rfl]
    rfl
  refine ⟨⟨htable, ?_⟩, htables, ?_⟩
  · refine ((ofJson_of_parse_eq_ok htable "t").2.2.1 _).mpr (.table (.array ?_) rfl)
    exact .cons (.object (.cons ⟨rfl, .null⟩ (.cons ⟨rfl, .array _⟩ .nil))) .nil
  · have hfirst : (Json.array [.object []]).IsTable :=
      ⟨_, rfl, List.forall_mem_singleton.mpr ⟨[], rfl⟩⟩
    have hsecond : TableFault "v" (.array [.object [], .null]) (.notRow "v" 2 .null) :=
      .notRow (List.forall_mem_singleton.mpr ⟨[], rfl⟩) (by simp [IsRow])
    refine ((ofJson_of_parse_eq_ok htables "t").2.2.2 _).mpr ⟨_, rfl, ?_⟩
    exact .tables (List.forall_mem_singleton.mpr hfirst) hsecond

end Source

end TableQuery
