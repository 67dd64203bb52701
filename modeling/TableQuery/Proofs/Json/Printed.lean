import TableQuery.Json.Draft
import TableQuery.Json.Printer

/-!
# Printed documents read back

`toDraft` is the draft that a document has when nothing of it is at fault. The
text that `prettyAt` prints is read into this draft at every level of nesting,
and exactly the text is consumed. Numerals are the one part that printing may
change, so what their texts are read as is given from outside, by `reading`, and
`Numeral.ReadsAs` says what is asked of it. The fuel of the reader is measured
by the text: two units for every character are always enough.
-/

namespace TableQuery.Json

namespace Draft

/-! ## Strings -/

/-- The three forms of an escape: a letter of its own, the number of a control character, and the
character itself. -/
theorem escape_cases (c : Char) :
    (∃ mark, escape c = ['\\', mark] ∧ shortEscape? mark = some c ∧ mark ≠ 'u') ∨
      (c.toNat < 32 ∧ escape c =
        ['\\', 'u', '0', '0', Nat.digitChar (c.toNat / 16), Nat.digitChar (c.toNat % 16)]) ∨
      (escape c = [c] ∧ ¬c.toNat < 32 ∧ c ≠ '"' ∧ c ≠ '\\') := by
  by_cases hquote : c = '"'
  · subst hquote
    exact .inl ⟨'"', rfl, rfl, by decide⟩
  by_cases hslash : c = '\\'
  · subst hslash
    exact .inl ⟨'\\', rfl, rfl, by decide⟩
  by_cases hfeed : c = '\n'
  · subst hfeed
    exact .inl ⟨'n', rfl, rfl, by decide⟩
  by_cases hreturn : c = '\r'
  · subst hreturn
    exact .inl ⟨'r', rfl, rfl, by decide⟩
  by_cases htab : c = '\t'
  · subst htab
    exact .inl ⟨'t', rfl, rfl, by decide⟩
  by_cases hback : c = '\x08'
  · subst hback
    exact .inl ⟨'b', rfl, rfl, by decide⟩
  by_cases hform : c = '\x0c'
  · subst hform
    exact .inl ⟨'f', rfl, rfl, by decide⟩
  by_cases hcontrol : c.toNat < 32
  · refine .inr (.inl ⟨hcontrol, ?_⟩)
    simp [escape, hquote, hslash, hfeed, hreturn, htab, hback, hform, hcontrol]
  · refine .inr (.inr ⟨?_, hcontrol, hquote, hslash⟩)
    simp [escape, hquote, hslash, hfeed, hreturn, htab, hback, hform, hcontrol]

/-- The escape by number of a control character stands for it, and is no half of a pair. -/
theorem unit?_control {n : Nat} (h : n < 32) :
    unit? '0' '0' (Nat.digitChar (n / 16)) (Nat.digitChar (n % 16)) = some n ∧
      isTrailing n = false ∧ isLeading n = false := by
  revert n
  decide

/-- A character is read back from its escape. -/
theorem scanString_escape (c : Char) (rest : List Char) :
    scanString none (escape c ++ rest) = (scanString none rest).prepend c := by
  rcases escape_cases c with ⟨mark, hescape, hmark, hu⟩ | ⟨hcontrol, hescape⟩ |
      ⟨hescape, hcontrol, hquote, hslash⟩
  · rw [hescape, List.cons_append, List.singleton_append, scanString]
    · simp [hmark, StringScan.after]
    all_goals simp_all
  · obtain ⟨hunit, htrailing, hleading⟩ := unit?_control hcontrol
    rw [hescape]
    simp [scanString, hunit, htrailing, hleading]
  · rw [hescape, List.singleton_append, scanString]
    · simp [hcontrol, StringScan.after]
    all_goals simp_all

theorem scanString_flatMap_escape (text rest : List Char) :
    scanString none (text.flatMap escape ++ '"' :: rest) = ⟨.ok text, .ok rest⟩ := by
  induction text with
  | nil => simp [scanString, StringScan.after]
  | cons c text ih =>
      rw [List.flatMap_cons, List.append_assoc, scanString_escape, ih]
      rfl

/-! ## Blanks -/

theorem skipSpace_lineBreak (level : Nat) (text : List Char) :
    skipSpace (lineBreak level ++ text) = skipSpace text := by
  refine List.dropWhile_append_of_pos ?_
  intro c hc
  rcases List.mem_cons.mp hc with rfl | hc
  · rfl
  · rw [List.eq_of_mem_replicate hc]
    rfl

theorem scanValue_of_skipSpace_eq {fuel : Nat} {s t : List Char} (h : skipSpace s = skipSpace t) :
    scanValue fuel s = scanValue fuel t := by
  cases fuel with
  | zero => rfl
  | succ fuel => simp only [scanValue, h]

end Draft

/-! ## Drafts of documents -/

mutual

/-- The draft of a document, with the numerals as they are read. -/
def toDraft (reading : Numeral → Except Fault Numeral) : Json → Draft
  | .null => .null
  | .bool b => .bool b
  | .numeral n => .numeral (reading n)
  | .string s => .string (.ok s)
  | .array items => .array (toDrafts reading items) .closed
  | .object members => .object (toMemberDrafts reading members) .closed

def toDrafts (reading : Numeral → Except Fault Numeral) : List Json → List Draft
  | [] => []
  | item :: rest => toDraft reading item :: toDrafts reading rest

def toMemberDrafts (reading : Numeral → Except Fault Numeral) :
    List (String × Json) → List (Except Fault String × Draft)
  | [] => []
  | (name, value) :: rest => (.ok name, toDraft reading value) :: toMemberDrafts reading rest

end

mutual

/-- The numerals of a document, in the order of its text. -/
def numerals : Json → List Numeral
  | .numeral n => [n]
  | .array items => numeralsOfItems items
  | .object members => numeralsOfMembers members
  | _ => []

def numeralsOfItems : List Json → List Numeral
  | [] => []
  | item :: rest => numerals item ++ numeralsOfItems rest

def numeralsOfMembers : List (String × Json) → List Numeral
  | [] => []
  | (_, value) :: rest => numerals value ++ numeralsOfMembers rest

end

theorem toDrafts_eq_map (reading : Numeral → Except Fault Numeral) (items : List Json) :
    toDrafts reading items = items.map (toDraft reading) := by
  induction items with
  | nil => rfl
  | cons item rest ih => rw [toDrafts, ih, List.map_cons]

theorem numeralsOfItems_eq_flatMap (items : List Json) :
    numeralsOfItems items = items.flatMap numerals := by
  induction items with
  | nil => rfl
  | cons item rest ih => rw [numeralsOfItems, ih, List.flatMap_cons]

theorem numeralsOfMembers_eq_flatMap (members : List (String × Json)) :
    numeralsOfMembers members = members.flatMap fun member => numerals member.2 := by
  induction members with
  | nil => rfl
  | cons member rest ih => rw [numeralsOfMembers, ih, List.flatMap_cons]

/-- Whether a text goes on with a value: not with a blank, nor with what may stand between items. -/
def StartsValue (text : List Char) : Prop :=
  ∃ c rest, text = c :: rest ∧ Draft.isSpace c = false ∧ c ≠ ']' ∧ c ≠ ','

/-- Whether a text goes on with nothing that could belong to a number before it. -/
def EndsNumber (text : List Char) : Prop :=
  ∀ c ∈ text.head?, Decimal.isDigit c = false ∧ c ≠ '.' ∧ c ≠ 'e' ∧ c ≠ 'E'

/-- The text of a numeral is read as `reading`, whatever text follows. -/
structure Numeral.ReadsAs (n : Numeral) (reading : Except Fault Numeral) : Prop where
  starts : StartsValue n.render
  scanned {rest : List Char} (h : EndsNumber rest) (fuel : Nat) :
    Draft.scanValue (fuel + 1) (n.render ++ rest) = ⟨.numeral reading, some rest⟩

/-! ## Values -/

theorem EndsNumber.cons {c : Char} (text : List Char)
    (h : Decimal.isDigit c = false ∧ c ≠ '.' ∧ c ≠ 'e' ∧ c ≠ 'E') : EndsNumber (c :: text) := by
  intro d hd
  rw [List.head?_cons, Option.mem_some_iff] at hd
  exact hd ▸ h

theorem EndsNumber.nil : EndsNumber [] := by
  intro c hc
  simp at hc

/-- After an item comes a comma, or the line of the closing bracket. -/
theorem endsNumber_prettyItems (level : Nat) (items : List Json) (rest : List Char) :
    EndsNumber (prettyItems level false items ++ rest) := by
  cases items with
  | nil => exact EndsNumber.cons (c := '\n') _ (by decide)
  | cons item items => exact EndsNumber.cons (c := ',') _ (by decide)

theorem endsNumber_prettyMembers (level : Nat) (members : List (String × Json))
    (rest : List Char) : EndsNumber (prettyMembers level false members ++ rest) := by
  cases members with
  | nil => exact EndsNumber.cons (c := '\n') _ (by decide)
  | cons member members => exact EndsNumber.cons (c := ',') _ (by decide)

theorem StartsValue.append {text : List Char} (h : StartsValue text) (rest : List Char) :
    StartsValue (text ++ rest) := by
  obtain ⟨c, tail, rfl, hc⟩ := h
  exact ⟨c, tail ++ rest, rfl, hc⟩

/-- The text of a document starts with its own first character. -/
theorem startsValue_prettyAt {reading : Numeral → Except Fault Numeral} {j : Json}
    (h : ∀ n ∈ j.numerals, n.ReadsAs (reading n)) (level : Nat) :
    StartsValue (prettyAt level j) := by
  cases j with
  | numeral n => exact (h n (by simp [numerals])).starts
  | null => exact ⟨'n', _, rfl, by decide⟩
  | bool b => cases b <;> exact ⟨_, _, rfl, by decide⟩
  | string s => exact ⟨'"', _, rfl, by decide⟩
  | array items => exact ⟨'[', _, rfl, by decide⟩
  | object members => exact ⟨'{', _, rfl, by decide⟩

namespace Draft

theorem skipSpace_of_startsValue {text : List Char} (h : StartsValue text) :
    skipSpace text = text := by
  obtain ⟨c, rest, rfl, hspace, -⟩ := h
  simp [skipSpace, hspace]

/-- An item on a line of its own, after a comma unless it is the first, is read before the
others. -/
theorem scanItems_cons {fuel : Nat} (level : Nat) (first : Bool) {start rest : List Char}
    {value : Draft} {others : Scanned (List Draft × Ending)} (hstart : StartsValue start)
    (hvalue : scanValue fuel start = ⟨value, some rest⟩)
    (hothers : scanItems fuel false rest = others) :
    scanItems (fuel + 1) first ((if first then [] else [',']) ++ lineBreak level ++ start) =
      ⟨(value :: others.value.1, others.value.2), others.rest⟩ := by
  have hskip : skipSpace (lineBreak level ++ start) = start := by
    rw [skipSpace_lineBreak, skipSpace_of_startsValue hstart]
  obtain ⟨c, tail, rfl, hspace, hclose, hcomma⟩ := hstart
  cases first with
  | true =>
      simp only [if_true, List.nil_append, scanItems, hskip]
      simp_all
  | false =>
      have hline : scanValue fuel (lineBreak level ++ c :: tail) = ⟨value, some rest⟩ := by
        rw [← hvalue]
        exact scanValue_of_skipSpace_eq (skipSpace_lineBreak level _)
      have hnext : skipSpace (',' :: (lineBreak level ++ c :: tail)) =
          ',' :: (lineBreak level ++ c :: tail) := rfl
      simp [scanItems, hnext, hline, hothers]

theorem scanString_quote (s : String) (rest : List Char) :
    ∃ text, quote s ++ rest = '"' :: text ∧ scanString none text = ⟨.ok s.toList, .ok rest⟩ := by
  refine ⟨s.toList.flatMap escape ++ '"' :: rest, ?_, scanString_flatMap_escape s.toList rest⟩
  simp [quote]

/-- A member on a line of its own, after a comma unless it is the first, is read before the
others. -/
theorem scanMembers_cons {fuel : Nat} (level : Nat) (first : Bool) (name : String)
    {start rest : List Char} {value : Draft}
    {others : Scanned (List (Except Fault String × Draft) × Ending)}
    (hvalue : scanValue fuel start = ⟨value, some rest⟩)
    (hothers : scanMembers fuel false rest = others) :
    scanMembers (fuel + 1) first
        ((if first then [] else [',']) ++ lineBreak level ++ (quote name ++ ':' :: ' ' :: start)) =
      ⟨((.ok name, value) :: others.value.1, others.value.2), others.rest⟩ := by
  obtain ⟨text, hquote, hname⟩ := scanString_quote name (':' :: ' ' :: start)
  have hskip : skipSpace (lineBreak level ++ '"' :: text) = '"' :: text :=
    skipSpace_lineBreak level _
  have hcolon : scanColon (':' :: ' ' :: start) = .ok (' ' :: start) := rfl
  have hblank : scanValue fuel (' ' :: start) = ⟨value, some rest⟩ := by
    rw [← hvalue]
    exact scanValue_of_skipSpace_eq rfl
  rw [hquote]
  cases first with
  | true =>
      have hagain : skipSpace ('"' :: text) = '"' :: text := rfl
      simp [scanMembers, hskip, hagain, hname, hcolon, hblank, hothers, Except.map]
  | false =>
      have hnext : skipSpace (',' :: (lineBreak level ++ '"' :: text)) =
          ',' :: (lineBreak level ++ '"' :: text) := rfl
      simp [scanMembers, hnext, hskip, hname, hcolon, hblank, hothers, Except.map]

/-- The closing bracket of an array stands on a line of its own, or right behind the opening one. -/
theorem scanItems_nil (fuel level : Nat) (first : Bool) (rest : List Char) :
    scanItems (fuel + 1) first (prettyItems level first [] ++ rest) =
      ⟨([], .closed), some rest⟩ := by
  have hskip : skipSpace (prettyItems level first [] ++ rest) = ']' :: rest := by
    cases first with
    | true => rfl
    | false =>
        rw [prettyItems, List.append_assoc]
        exact skipSpace_lineBreak level _
  rw [scanItems, hskip]
  rfl

theorem scanMembers_nil (fuel level : Nat) (first : Bool) (rest : List Char) :
    scanMembers (fuel + 1) first (prettyMembers level first [] ++ rest) =
      ⟨([], .closed), some rest⟩ := by
  have hskip : skipSpace (prettyMembers level first [] ++ rest) = '}' :: rest := by
    cases first with
    | true => rfl
    | false =>
        rw [prettyMembers, List.append_assoc]
        exact skipSpace_lineBreak level _
  rw [scanMembers, hskip]
  rfl

mutual

/-- The text of a document is read into its draft, up to its end. -/
theorem scanValue_prettyAt {reading : Numeral → Except Fault Numeral} :
    ∀ (j : Json) (level fuel : Nat) {rest : List Char},
      (∀ n ∈ j.numerals, n.ReadsAs (reading n)) → 2 * (prettyAt level j).length ≤ fuel →
      EndsNumber rest → scanValue fuel (prettyAt level j ++ rest) = ⟨j.toDraft reading, some rest⟩
  | j, level, 0, rest, hn, hfuel, _ => by
      obtain ⟨c, tail, htext, -⟩ := startsValue_prettyAt hn level
      simp [htext] at hfuel
  | .null, level, fuel + 1, rest, _, _, _ => rfl
  | .bool true, level, fuel + 1, rest, _, _, _ => rfl
  | .bool false, level, fuel + 1, rest, _, _, _ => rfl
  | .numeral n, level, fuel + 1, rest, hn, _, hrest => by
      rw [prettyAt, toDraft]
      exact (hn n (by simp [numerals])).scanned hrest fuel
  | .string s, level, fuel + 1, rest, _, _, _ => by
      obtain ⟨text, hquote, hscan⟩ := scanString_quote s rest
      have hskip : skipSpace ('"' :: text) = '"' :: text := rfl
      rw [prettyAt, hquote, scanValue, hskip]
      simp [hscan, ofStringScan, toDraft, Except.map]
  | .array items, level, fuel + 1, rest, hn, hfuel, _ => by
      have hitems := scanItems_prettyItems items level fuel true rest
        (by simpa [numerals] using hn) (by simp [prettyAt] at hfuel; omega)
      have hskip : ∀ text, skipSpace ('[' :: text) = '[' :: text := fun _ => rfl
      rw [prettyAt, List.cons_append, scanValue, hskip]
      simp [hitems, toDraft]
  | .object members, level, fuel + 1, rest, hn, hfuel, _ => by
      have hmembers := scanMembers_prettyMembers members level fuel true rest
        (by simpa [numerals] using hn) (by simp [prettyAt] at hfuel; omega)
      have hskip : ∀ text, skipSpace ('{' :: text) = '{' :: text := fun _ => rfl
      rw [prettyAt, List.cons_append, scanValue, hskip]
      simp [hmembers, toDraft]

theorem scanItems_prettyItems {reading : Numeral → Except Fault Numeral} :
    ∀ (items : List Json) (level fuel : Nat) (first : Bool) (rest : List Char),
      (∀ n ∈ numeralsOfItems items, n.ReadsAs (reading n)) →
      2 * (prettyItems level first items).length ≤ fuel →
      scanItems fuel first (prettyItems level first items ++ rest) =
        ⟨(toDrafts reading items, .closed), some rest⟩
  | items, level, 0, first, rest, _, hfuel => by
      cases items <;> simp [prettyItems, lineBreak] at hfuel
  | [], level, fuel + 1, first, rest, _, _ => scanItems_nil fuel level first rest
  | item :: items, level, fuel + 1, first, rest, hn, hfuel => by
      have hlength : (prettyItems level first (item :: items)).length =
          (if first then 0 else 1) + (2 * level + 3) + (prettyAt (level + 1) item).length +
            (prettyItems level false items).length := by
        cases first <;> simp [prettyItems, lineBreak] <;> omega
      have hitem : ∀ n ∈ item.numerals, n.ReadsAs (reading n) :=
        fun n hmem => hn n (by simp [numeralsOfItems, hmem])
      have hothers : ∀ n ∈ numeralsOfItems items, n.ReadsAs (reading n) :=
        fun n hmem => hn n (by simp [numeralsOfItems, hmem])
      have h := scanItems_cons (level + 1) first
        ((startsValue_prettyAt hitem (level + 1)).append (prettyItems level false items ++ rest))
        (scanValue_prettyAt item (level + 1) fuel hitem (by omega)
          (endsNumber_prettyItems level items rest))
        (scanItems_prettyItems items level fuel false rest hothers (by omega))
      simpa [prettyItems, toDrafts] using h

theorem scanMembers_prettyMembers {reading : Numeral → Except Fault Numeral} :
    ∀ (members : List (String × Json)) (level fuel : Nat) (first : Bool) (rest : List Char),
      (∀ n ∈ numeralsOfMembers members, n.ReadsAs (reading n)) →
      2 * (prettyMembers level first members).length ≤ fuel →
      scanMembers fuel first (prettyMembers level first members ++ rest) =
        ⟨(toMemberDrafts reading members, .closed), some rest⟩
  | members, level, 0, first, rest, _, hfuel => by
      rcases members with _ | ⟨⟨name, value⟩, members⟩ <;>
        simp [prettyMembers, lineBreak] at hfuel
  | [], level, fuel + 1, first, rest, _, _ => scanMembers_nil fuel level first rest
  | (name, value) :: members, level, fuel + 1, first, rest, hn, hfuel => by
      have hlength : (prettyMembers level first ((name, value) :: members)).length =
          (if first then 0 else 1) + (2 * level + 3) + (quote name).length + 2 +
            (prettyAt (level + 1) value).length + (prettyMembers level false members).length := by
        cases first <;> simp [prettyMembers, lineBreak] <;> omega
      have hvalue : ∀ n ∈ value.numerals, n.ReadsAs (reading n) :=
        fun n hmem => hn n (by simp [numeralsOfMembers, hmem])
      have hothers : ∀ n ∈ numeralsOfMembers members, n.ReadsAs (reading n) :=
        fun n hmem => hn n (by simp [numeralsOfMembers, hmem])
      have h := scanMembers_cons (level + 1) first name
        (scanValue_prettyAt value (level + 1) fuel hvalue (by omega)
          (endsNumber_prettyMembers level members rest))
        (scanMembers_prettyMembers members level fuel false rest hothers (by omega))
      simpa [prettyMembers, toMemberDrafts] using h

end

/-- The text of a whole document is read into its draft, with nothing after it. -/
theorem ofText_pretty {reading : Numeral → Except Fault Numeral} {j : Json}
    (h : ∀ n ∈ j.numerals, n.ReadsAs (reading n)) :
    ofText j.pretty = (j.toDraft reading, false) := by
  have hscan : scanValue (2 * j.pretty.length + 2) (j.pretty ++ []) =
      ⟨j.toDraft reading, some []⟩ :=
    scanValue_prettyAt j 0 _ h (Nat.le_add_right _ 2) EndsNumber.nil
  rw [List.append_nil] at hscan
  rw [ofText, hscan]
  rfl

/-- Without numbers, nothing is lost on the way to the text and back. -/
theorem ofText_pretty_of_numerals_eq_nil {j : Json} (h : j.numerals = []) :
    ofText (String.ofList j.pretty).toList = (j.toDraft .ok, false) := by
  rw [String.toList_ofList]
  exact ofText_pretty (by simp [h])

end Draft

end TableQuery.Json
