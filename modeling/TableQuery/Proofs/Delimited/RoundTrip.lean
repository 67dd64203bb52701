import TableQuery.Delimited.Reader
import TableQuery.Delimited.Writer

/-!
# Quoted records read back

Reading is a fold of `Scan.step`, so each piece that the writer puts down has an
equation for the fold over it: the doubled quotes of a field, a quoted field,
the rest of a record with its line end, and a whole text of records. Only a
record without fields does not read back, for it is written like a record with
one empty field.
-/

namespace TableQuery.Delimited

namespace Scan

/-- Inside quotes every character of a field is taken as it is, a doubled quote as one. -/
theorem foldl_step_escape (delimiter : Char) (text : List Char) (field : List Char)
    (fields : List String) (records : List (List String)) :
    (text.flatMap escape).foldl (step delimiter) ⟨.quoted, field, fields, records⟩ =
      ⟨.quoted, text.reverse ++ field, fields, records⟩ := by
  induction text generalizing field with
  | nil => rfl
  | cons c rest ih =>
      have hchar : (escape c).foldl (step delimiter) ⟨.quoted, field, fields, records⟩ =
          ⟨.quoted, c :: field, fields, records⟩ := by
        by_cases hc : c = '"'
        · subst hc
          rfl
        · simp [escape, hc, step, take]
      rw [List.flatMap_cons, List.foldl_append, hchar, ih]
      simp

/-- A quoted field at the start of a field is read up to its closing quote. -/
theorem foldl_step_quote (delimiter : Char) {place : Place}
    (hplace : place = .lineStart ∨ place = .fieldStart) (text : List Char) (fields : List String)
    (records : List (List String)) :
    (quote text).foldl (step delimiter) ⟨place, [], fields, records⟩ =
      ⟨.quoteSeen, text.reverse, fields, records⟩ := by
  have hopen : step delimiter ⟨place, [], fields, records⟩ '"' =
      ⟨.quoted, [], fields, records⟩ := by
    rcases hplace with rfl | rfl <;> rfl
  rw [quote, List.foldl_cons, hopen, List.foldl_append, foldl_step_escape, List.append_nil]
  rfl

/-- The fields after one whose closing quote is read, and the end of the line, finish the record. -/
theorem foldl_step_writeFields (rest : List String) (field : List Char) (fields : List String)
    (records : List (List String)) :
    (writeFields .always false rest ++ ['\n']).foldl (step ',')
        ⟨.quoteSeen, field, fields, records⟩ =
      ⟨.lineStart, [], [],
        (fields.reverse ++ String.ofList field.reverse :: rest) :: records⟩ := by
  induction rest generalizing field fields with
  | nil =>
      have hend : step ',' ⟨.quoteSeen, field, fields, records⟩ '\n' =
          endRecord ⟨.quoteSeen, field, fields, records⟩ .lineStart := rfl
      simp [writeFields, hend, endRecord]
  | cons text rest ih =>
      have hcomma : step ',' ⟨.quoteSeen, field, fields, records⟩ ',' =
          ⟨.fieldStart, [], String.ofList field.reverse :: fields, records⟩ := rfl
      have hencode : encode .always text = quote text.toList := rfl
      rw [writeFields, hencode]
      simp only [Bool.false_eq_true, if_false, List.cons_append, List.nil_append,
        List.append_assoc, List.foldl_cons, hcomma]
      rw [List.foldl_append, foldl_step_quote ',' (.inr rfl), ih]
      simp

theorem foldl_step_writeRecord {record : List String} (h : record ≠ [])
    (records : List (List String)) :
    (writeRecord .always record).foldl (step ',') ⟨.lineStart, [], [], records⟩ =
      ⟨.lineStart, [], [], record :: records⟩ := by
  cases record with
  | nil => exact absurd rfl h
  | cons text rest =>
      have hline : writeFields .always true (text :: rest) =
          quote text.toList ++ writeFields .always false rest := by
        rw [writeFields]
        rfl
      have hfilled : (writeFields .always true (text :: rest)).isEmpty = false := by
        rw [hline]
        rfl
      rw [writeRecord, hfilled, hline]
      simp only [Bool.false_eq_true, if_false, List.append_assoc]
      rw [List.foldl_append, foldl_step_quote ',' (.inl rfl), foldl_step_writeFields]
      simp

theorem foldl_step_write {written : List (List String)} (h : ∀ record ∈ written, record ≠ [])
    (records : List (List String)) :
    (write .always written).foldl (step ',') ⟨.lineStart, [], [], records⟩ =
      ⟨.lineStart, [], [], written.reverse ++ records⟩ := by
  induction written generalizing records with
  | nil => rfl
  | cons record rest ih =>
      have hrest : ∀ r ∈ rest, r ≠ [] := fun r hr => h r (List.mem_cons_of_mem _ hr)
      rw [write, List.flatMap_cons, List.foldl_append,
        foldl_step_writeRecord (h record List.mem_cons_self)]
      rw [write] at ih
      rw [ih hrest]
      simp

end Scan

/-- Quoted records are read back as they were written. -/
theorem records_write {written : List (List String)} (h : ∀ record ∈ written, record ≠ []) :
    records ',' (write .always written) = written := by
  rw [records, Scan.foldl_step_write h]
  simp [Scan.finish]

/-- A text of quoted records starts with a quote, so it has no byte order mark to lose. -/
theorem dropMark_write {written : List (List String)} (h : ∀ record ∈ written, record ≠ []) :
    dropMark (write .always written) = write .always written := by
  cases written with
  | nil => rfl
  | cons record rest =>
      cases record with
      | nil => exact absurd rfl (h [] List.mem_cons_self)
      | cons text others => rfl

end TableQuery.Delimited
