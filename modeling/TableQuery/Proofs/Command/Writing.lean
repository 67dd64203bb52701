import TableQuery.Command.Writing

/-!
# A command prints all or nothing

`Ends` says how a command ends, one rule for every way: a failure of one step stands under
the success of all steps before it, so the rules tell which failure is reported when
several files are at fault. What is written is then read off the rule. A step that can
fail writes nothing, and no step that can fail comes after the first write.
-/

namespace TableQuery

/-! ## How a command ends -/

/-- What reading the base of a query gives. -/
inductive QueryBase.Reads (files : Files) : QueryBase → Except CommandError Query → Prop where
  | none : Reads files .none (.ok {})
  | unread {path : String} {fault : FileFault} (hfile : files.text path = .error fault) :
      Reads files (.file path) (.error (.readQuery path fault))
  | undecoded {path text : String} {error : QueryError} (hfile : files.text path = .ok text)
      (hquery : (QueryFormat.ofPath path).read text = .error error) :
      Reads files (.file path) (.error (.parseQuery path error))
  | file {path text : String} {query : Query} (hfile : files.text path = .ok text)
      (hquery : (QueryFormat.ofPath path).read text = .ok query) :
      Reads files (.file path) (.ok query)
  | inlineUndecoded {text : String} {error : QueryError}
      (hquery : QueryFormat.json.read text = .error error) :
      Reads files (.inline text) (.error (.parseInlineQuery error))
  | inline {text : String} {query : Query} (hquery : QueryFormat.json.read text = .ok query) :
      Reads files (.inline text) (.ok query)

namespace Command

/-- What looking up a table in a file gives. -/
inductive Finds (files : Files) (path : String) (name : Option String) :
    Except CommandError (List Row) → Prop where
  | unloaded {error : SourceError} (hload : Source.load files path = .error error) :
      Finds files path name (.error (.load path error))
  | unselected {source : Source} {error : SourceError} (hload : Source.load files path = .ok source)
      (hselect : source.select name = .error error) :
      Finds files path name (.error (.select error))
  | found {source : Source} {table : String × List Row}
      (hload : Source.load files path = .ok source) (hselect : source.select name = .ok table) :
      Finds files path name (.ok table.2)

/-- How a command ends: with its whole output, or with a failure. -/
inductive Ends (renderer : Renderer) (files : Files) :
    Command → Except Failure (List Char) → Prop where
  | tablesUnloaded {path : String} {format : Format} {error : SourceError}
      (hload : Source.load files path = .error error) :
      Ends renderer files (.tables path format) (.error (.command (.load path error)))
  | tablesUnrendered {path : String} {format : Format} {source : Source} {error : ExportError}
      (hload : Source.load files path = .ok source) (hformat : format.isStructured = true)
      (hrender : renderer.summaries format source.summaries = .error error) :
      Ends renderer files (.tables path format) (.error (.render error))
  | tables {path : String} {format : Format} {source : Source} {text : List Char}
      (hload : Source.load files path = .ok source) (hformat : format.isStructured = true)
      (hrender : renderer.summaries format source.summaries = .ok text) :
      Ends renderer files (.tables path format) (.ok text)
  | tableLines {path : String} {format : Format} {source : Source}
      (hload : Source.load files path = .ok source) (hformat : format.isStructured = false) :
      Ends renderer files (.tables path format) (.ok (lines (source.summaries.map fun table =>
        table.name ++ "\t" ++ String.ofList (Nat.toDigits 10 table.rows))))
  | columnsUnfound {path : String} {name : Option String} {error : CommandError}
      (hfind : Finds files path name (.error error)) :
      Ends renderer files (.columns path name) (.error (.command error))
  | columns {path : String} {name : Option String} {rows : List Row}
      (hfind : Finds files path name (.ok rows)) :
      Ends renderer files (.columns path name) (.ok (lines (Row.columns rows)))
  | queryUnread {request : QueryRequest} {error : CommandError}
      (hread : request.base.Reads files (.error error)) :
      Ends renderer files (.query request) (.error (.command error))
  | queryUnfound {request : QueryRequest} {base : Query} {error : CommandError}
      (hread : request.base.Reads files (.ok base))
      (hfind : Finds files request.file request.table (.error error)) :
      Ends renderer files (.query request) (.error (.command error))
  | queryUnrendered {request : QueryRequest} {base : Query} {table found : List Row}
      {error : ExportError} (hread : request.base.Reads files (.ok base))
      (hfind : Finds files request.file request.table (.ok table))
      (hrun : (base.withFlags request.search request.sorting).run table = found)
      (hrender : renderer.rows request.format found (header table found) = .error error) :
      Ends renderer files (.query request) (.error (.render error))
  | query {request : QueryRequest} {base : Query} {table found : List Row} {text : List Char}
      (hread : request.base.Reads files (.ok base))
      (hfind : Finds files request.file request.table (.ok table))
      (hrun : (base.withFlags request.search request.sorting).run table = found)
      (hrender : renderer.rows request.format found (header table found) = .ok text) :
      Ends renderer files (.query request) (.ok text)

end Command

section Steps

variable {files : Files} {renderer : Renderer}

theorem QueryBase.read_file {path text : String} (hfile : files.text path = .ok text) :
    (QueryBase.file path).read files =
      ((QueryFormat.ofPath path).read text).mapError (.parseQuery path) := by
  rw [read, hfile]
  rfl

theorem QueryBase.Reads.read_eq {base : QueryBase} {result : Except CommandError Query}
    (h : base.Reads files result) : base.read files = result := by
  cases h with
  | none => rfl
  | unread hfile =>
      rw [read, hfile]
      rfl
  | undecoded hfile hquery =>
      rw [read_file hfile, hquery]
      rfl
  | file hfile hquery =>
      rw [read_file hfile, hquery]
      rfl
  | inlineUndecoded hquery =>
      rw [read, hquery]
      rfl
  | inline hquery =>
      rw [read, hquery]
      rfl

theorem QueryBase.Reads.query_eq_error {request : QueryRequest} {error : CommandError}
    (h : request.base.Reads files (.error error)) : request.query files = .error error := by
  rw [QueryRequest.query, h.read_eq]
  rfl

theorem QueryBase.Reads.query_eq_ok {request : QueryRequest} {base : Query}
    (h : request.base.Reads files (.ok base)) :
    request.query files = .ok (base.withFlags request.search request.sorting) := by
  rw [QueryRequest.query, h.read_eq]
  rfl

theorem QueryBase.exists_reads (files : Files) (base : QueryBase) :
    ∃ result, base.Reads files result := by
  cases base with
  | none => exact ⟨_, .none⟩
  | file path =>
      cases hfile : files.text path with
      | error fault => exact ⟨_, .unread hfile⟩
      | ok text =>
          cases hquery : (QueryFormat.ofPath path).read text with
          | error error => exact ⟨_, .undecoded hfile hquery⟩
          | ok query => exact ⟨_, .file hfile hquery⟩
  | inline text =>
      cases hquery : QueryFormat.json.read text with
      | error error => exact ⟨_, .inlineUndecoded hquery⟩
      | ok query => exact ⟨_, .inline hquery⟩

namespace Command

variable {path : String} {name : Option String}

theorem load_eq_error {error : SourceError} (hload : Source.load files path = .error error) :
    load files path = .error (.load path error) := by
  rw [load, hload]
  rfl

theorem load_eq_ok {source : Source} (hload : Source.load files path = .ok source) :
    load files path = .ok source := by
  rw [load, hload]
  rfl

theorem loadTable_of_load {source : Source} (hload : Source.load files path = .ok source) :
    loadTable files path name = ((source.select name).mapError .select).map (·.2) := by
  rw [loadTable, load_eq_ok hload]
  rfl

theorem Finds.loadTable_eq {result : Except CommandError (List Row)}
    (h : Finds files path name result) : loadTable files path name = result := by
  cases h with
  | unloaded hload =>
      rw [loadTable, load_eq_error hload]
      rfl
  | unselected hload hselect =>
      rw [loadTable_of_load hload, hselect]
      rfl
  | found hload hselect =>
      rw [loadTable_of_load hload, hselect]
      rfl

theorem exists_finds (files : Files) (path : String) (name : Option String) :
    ∃ result, Finds files path name result := by
  cases hload : Source.load files path with
  | error error => exact ⟨_, .unloaded hload⟩
  | ok source =>
      cases hselect : source.select name with
      | error error => exact ⟨_, .unselected hload hselect⟩
      | ok table => exact ⟨_, .found hload hselect⟩

/-- Every command ends. -/
theorem exists_ends (renderer : Renderer) (files : Files) (command : Command) :
    ∃ outcome, Ends renderer files command outcome := by
  cases command with
  | tables path format =>
      cases hload : Source.load files path with
      | error error => exact ⟨_, .tablesUnloaded hload⟩
      | ok source =>
          cases hformat : format.isStructured with
          | false => exact ⟨_, .tableLines hload hformat⟩
          | true =>
              cases hrender : renderer.summaries format source.summaries with
              | error error => exact ⟨_, .tablesUnrendered hload hformat hrender⟩
              | ok text => exact ⟨_, .tables hload hformat hrender⟩
  | columns path name =>
      obtain ⟨result, hfind⟩ := exists_finds files path name
      cases result with
      | error error => exact ⟨_, .columnsUnfound hfind⟩
      | ok rows => exact ⟨_, .columns hfind⟩
  | query request =>
      obtain ⟨base, hread⟩ := request.base.exists_reads files
      obtain ⟨table, hfind⟩ := exists_finds files request.file request.table
      cases base with
      | error error => exact ⟨_, .queryUnread hread⟩
      | ok base =>
          cases table with
          | error error => exact ⟨_, .queryUnfound hread hfind⟩
          | ok table =>
              cases hrender : renderer.rows request.format
                  ((base.withFlags request.search request.sorting).run table) (header table _) with
              | error error => exact ⟨_, .queryUnrendered hread hfind rfl hrender⟩
              | ok text => exact ⟨_, .query hread hfind rfl hrender⟩

end Command

end Steps

/-! ## What a sink receives -/

variable {σ : Type} {sink : Sink (StateM σ)} {written : σ → ByteArray}

/-- Writing to a sink succeeds: what has been written grows by the bytes, in order. -/
structure Sink.Keeps (sink : Sink (StateM σ)) (written : σ → ByteArray) : Prop where
  write (bytes : ByteArray) (s : σ) : written (sink.write bytes s).2 = written s ++ bytes
  flush (s : σ) : written (sink.flush s).2 = written s

/-- An action adds a text to what has been written. -/
def Adds (written : σ → ByteArray) (action : StateM σ Unit) (text : List Char) : Prop :=
  ∀ s, written (action s).2 = written s ++ (String.ofList text).toUTF8

theorem Adds.nil : Adds written (pure ()) [] := by
  intro s
  show written s = written s ++ ByteArray.empty
  rw [ByteArray.append_empty]

theorem Adds.append {action next : StateM σ Unit} {text rest : List Char}
    (haction : Adds written action text) (hnext : Adds written next rest) :
    Adds written (do action; next) (text ++ rest) := by
  intro s
  show written (next (action s).2).2 = _
  rw [hnext, haction, ByteArray.append_assoc, String.ofList_append, String.toUTF8_eq_toByteArray,
    String.toUTF8_eq_toByteArray, String.toUTF8_eq_toByteArray, String.toByteArray_append]

theorem Adds.forM {α : Type} {action : α → StateM σ Unit} {text : α → List Char}
    (h : ∀ x, Adds written (action x) (text x)) (list : List α) :
    Adds written (list.forM action) (list.flatMap text) := by
  induction list with
  | nil => exact .nil
  | cons x list ih => exact (h x).append ih

namespace Sink

theorem memory_keeps : memory.Keeps id where
  write _ _ := rfl
  flush _ := rfl

namespace Keeps

variable (h : sink.Keeps written)
include h

theorem print (text : List Char) : Adds written (sink.print text) text := h.write _

theorem printTables (summaries : List TableSummary) :
    Adds written (sink.printTables summaries) (Command.lines (summaries.map fun table =>
      table.name ++ "\t" ++ String.ofList (Nat.toDigits 10 table.rows))) := by
  have hlines : Command.lines (summaries.map fun table =>
      table.name ++ "\t" ++ String.ofList (Nat.toDigits 10 table.rows)) =
      summaries.flatMap fun table =>
        table.name.toList ++ (['\t'] ++ (Nat.toDigits 10 table.rows ++ ['\n'])) := by
    simp [Command.lines, List.flatMap_map]
  rw [hlines]
  refine .forM (fun table => ?_) summaries
  exact (h.print _).append ((h.print _).append ((h.print _).append (h.print _)))

theorem printColumns (columns : List String) :
    Adds written (sink.printColumns columns) (Command.lines columns) := by
  refine .forM (fun column => ?_) columns
  exact (h.print _).append (h.print _)

end Keeps

end Sink

/-! ## What a command writes -/

/-- What an action leaves behind: a text that is written, or a failure and nothing else. -/
def Leaves (written : σ → ByteArray) :
    Except Failure (List Char) → ExceptT Failure (StateM σ) Unit → Prop
  | .ok text, action => ∀ s, (action.run s).1 = .ok () ∧
      written (action.run s).2 = written s ++ (String.ofList text).toUTF8
  | .error failure, action => ∀ s, action.run s = (.error failure, s)

/-- No action leaves two things behind. -/
theorem Leaves.unique {outcome other : Except Failure (List Char)}
    {action : ExceptT Failure (StateM σ) Unit} (hother : Leaves written other action) (s : σ)
    (houtcome : Leaves written outcome action) : other = outcome := by
  cases other with
  | error failure =>
      have hrun : action.run s = (.error failure, s) := hother s
      cases outcome with
      | error failure' =>
          rw [houtcome s] at hrun
          cases hrun
          rfl
      | ok text =>
          have hok := (houtcome s).1
          rw [hrun] at hok
          cases hok
  | ok text =>
      obtain ⟨hok, htext⟩ := hother s
      cases outcome with
      | error failure =>
          rw [houtcome s] at hok
          cases hok
      | ok text' =>
          have hbytes := htext.symm.trans (houtcome s).2
          rw [ByteArray.append_right_inj, String.toUTF8_eq_toByteArray,
            String.toUTF8_eq_toByteArray, String.toByteArray_inj, String.ofList_inj] at hbytes
          rw [hbytes]

theorem Adds.leaves {action : StateM σ Unit} {text : List Char} (h : Adds written action text) :
    Leaves written (.ok text) (ExceptT.lift action) := fun s => ⟨rfl, h s⟩

/-- The second of two actions is left out if the first one fails. -/
theorem run_seq (action next : ExceptT Failure (StateM σ) Unit) (s : σ) :
    (do action; next : ExceptT Failure (StateM σ) Unit).run s =
      match (action.run s).1 with
      | .ok () => next.run (action.run s).2
      | .error failure => (.error failure, (action.run s).2) := by
  show (match action.run s with
    | (result, after) => ExceptT.bindCont (fun _ => next) result after) = _
  rcases action.run s with ⟨failure | _, after⟩
  · rfl
  · rfl

theorem Sink.Keeps.leaves_flush (h : sink.Keeps written) {outcome : Except Failure (List Char)}
    {action : ExceptT Failure (StateM σ) Unit} (haction : Leaves written outcome action) :
    Leaves written outcome (do action; sink.flush) := by
  cases outcome with
  | error failure =>
      intro s
      rw [run_seq, haction s]
  | ok text =>
      intro s
      obtain ⟨hok, htext⟩ := haction s
      rw [run_seq, hok]
      refine ⟨rfl, ?_⟩
      rw [← htext]
      exact h.flush _

namespace Command

variable {ε α : Type} {failure : ε → Failure}

theorem attempt_ok_bind (a : α) (next : α → ExceptT Failure (StateM σ) Unit) :
    attempt failure (.ok a) >>= next = next a := rfl

theorem leaves_attempt_error (error : ε) (next : α → ExceptT Failure (StateM σ) Unit) :
    Leaves written (.error (failure error)) (attempt failure (.error error) >>= next) :=
  fun _ => rfl

variable {renderer : Renderer} {files : Files} {command : Command}
  {outcome : Except Failure (List Char)}

theorem Ends.leaves_write (hends : Ends renderer files command outcome) (h : sink.Keeps written) :
    Leaves written outcome (command.write renderer files sink) := by
  cases hends with
  | tablesUnloaded hload =>
      rw [write, load_eq_error hload]
      exact leaves_attempt_error _ _
  | tablesUnrendered hload hformat hrender =>
      rw [write, load_eq_ok hload, attempt_ok_bind, if_pos hformat, hrender]
      exact leaves_attempt_error _ _
  | tables hload hformat hrender =>
      rw [write, load_eq_ok hload, attempt_ok_bind, if_pos hformat, hrender, attempt_ok_bind]
      exact (h.print _).leaves
  | tableLines hload hformat =>
      rw [write, load_eq_ok hload, attempt_ok_bind, if_neg (Bool.eq_false_iff.mp hformat)]
      exact (h.printTables _).leaves
  | columnsUnfound hfind =>
      rw [write, hfind.loadTable_eq]
      exact leaves_attempt_error _ _
  | columns hfind =>
      rw [write, hfind.loadTable_eq, attempt_ok_bind]
      exact (h.printColumns _).leaves
  | queryUnread hread =>
      rw [write, hread.query_eq_error]
      exact leaves_attempt_error _ _
  | queryUnfound hread hfind =>
      rw [write, hread.query_eq_ok, hfind.loadTable_eq, attempt_ok_bind]
      exact leaves_attempt_error _ _
  | queryUnrendered hread hfind hrun hrender =>
      simp only [write, hread.query_eq_ok, hfind.loadTable_eq, attempt_ok_bind, hrun, hrender]
      exact leaves_attempt_error _ _
  | query hread hfind hrun hrender =>
      simp only [write, hread.query_eq_ok, hfind.loadTable_eq, attempt_ok_bind, hrun, hrender]
      exact (h.print _).leaves

theorem Ends.leaves (hends : Ends renderer files command outcome) (h : sink.Keeps written) :
    Leaves written outcome (command.perform renderer files sink) :=
  h.leaves_flush (hends.leaves_write h)

/-- A command ends in one way, since a sink in memory tells all outcomes apart. -/
theorem Ends.unique {other : Except Failure (List Char)}
    (hother : Ends renderer files command other) (hends : Ends renderer files command outcome) :
    other = outcome :=
  (hother.leaves Sink.memory_keeps).unique ByteArray.empty (hends.leaves Sink.memory_keeps)

/-- With the renderer of the program, a command ends with what it is run to. -/
theorem ends_standard [Terminal] (files : Files) (command : Command) :
    Ends .standard files command ((command.run files).mapError .command) := by
  obtain ⟨outcome, hends⟩ := exists_ends .standard files command
  have hrun : (command.run files).mapError .command = outcome := by
    cases hends with
    | tablesUnloaded hload =>
        rw [run, load_eq_error hload]
        rfl
    | tablesUnrendered _ _ hrender => cases hrender
    | tables hload hformat hrender =>
        cases hrender
        rw [run, load_eq_ok hload]
        exact congrArg Except.ok (if_pos hformat)
    | tableLines hload hformat =>
        rw [run, load_eq_ok hload]
        exact congrArg Except.ok (if_neg (Bool.eq_false_iff.mp hformat))
    | columnsUnfound hfind =>
        rw [run, hfind.loadTable_eq]
        rfl
    | columns hfind =>
        rw [run, hfind.loadTable_eq]
        rfl
    | queryUnread hread =>
        rw [run, hread.query_eq_error]
        rfl
    | queryUnfound hread hfind =>
        rw [run, hread.query_eq_ok, hfind.loadTable_eq]
        rfl
    | queryUnrendered _ _ _ hrender => cases hrender
    | query hread hfind hfound hrender =>
        cases hrender
        rw [run, hread.query_eq_ok, hfind.loadTable_eq, ← hfound]
        rfl
  rw [hrun]
  exact hends

end Command

end TableQuery
