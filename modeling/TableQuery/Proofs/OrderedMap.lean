import Mathlib.Data.List.Induction
import Mathlib.Data.List.Perm.Subperm
import TableQuery.OrderedMap

/-!
# Maps from distinct names

Inserting a name that is not there appends its entry, so a map that is filled
with pairwise distinct names holds exactly the given entries, in their order.
With a name that comes twice, one of its entries is lost: the name stays where
it came first, with the value that came last.
-/

namespace TableQuery

variable {α : Type}

theorem putEntry_of_not_mem {name : String} (value : α) {entries : List (String × α)}
    (h : name ∉ entries.map Prod.fst) :
    putEntry name value entries = entries ++ [(name, value)] := by
  induction entries with
  | nil => rfl
  | cons entry rest ih =>
      simp only [List.map_cons, List.mem_cons, not_or] at h
      rw [putEntry, if_neg (Ne.symm h.1), ih h.2, List.cons_append]

theorem findEntry_eq_none_iff {name : String} {entries : List (String × α)} :
    findEntry name entries = none ↔ name ∉ entries.map Prod.fst := by
  induction entries with
  | nil => simp [findEntry]
  | cons entry rest ih =>
      by_cases h : entry.1 = name
      · simp [findEntry, h]
      · simp [findEntry, h, ih, Ne.symm h]

theorem findEntry_eq_some_iff {name : String} {value : α} {entries : List (String × α)}
    (h : (entries.map Prod.fst).Nodup) :
    findEntry name entries = some value ↔ (name, value) ∈ entries := by
  induction entries with
  | nil => simp [findEntry]
  | cons entry rest ih =>
      rw [List.map_cons, List.nodup_cons] at h
      rw [findEntry, List.mem_cons]
      split
      · next hname =>
        subst hname
        have hrest : (entry.1, value) ∉ rest :=
          fun hmem => h.1 (List.mem_map.mpr ⟨(entry.1, value), hmem, rfl⟩)
        simp [hrest, Prod.ext_iff, eq_comm]
      · next hname => simp [ih h.2, Prod.ext_iff, Ne.symm hname]

/-- The value under a name when every name has the value that a function gives it. -/
theorem findEntry_map (f : String → α) (name : String) (names : List String) :
    findEntry name (names.map fun n => (n, f n)) =
      if name ∈ names then some (f name) else none := by
  induction names with
  | nil => rfl
  | cons n rest ih =>
      rw [List.map_cons, findEntry, ih]
      by_cases h : n = name
      · simp [h]
      · simp [h, Ne.symm h]

namespace OrderedMap

theorem get?_eq_none_iff {m : OrderedMap α} {name : String} :
    m.get? name = none ↔ name ∉ m.names :=
  findEntry_eq_none_iff

theorem get?_eq_some_iff {m : OrderedMap α} {name : String} {value : α} :
    m.get? name = some value ↔ (name, value) ∈ m.entries :=
  findEntry_eq_some_iff m.nodup

theorem mem_names_iff {m : OrderedMap α} {name : String} :
    name ∈ m.names ↔ ∃ value, m.get? name = some value := by
  rw [← Option.ne_none_iff_exists', ne_eq, get?_eq_none_iff, not_not]

theorem entries_insert_of_not_mem {m : OrderedMap α} {name : String} (value : α)
    (h : name ∉ m.names) : (m.insert name value).entries = m.entries ++ [(name, value)] :=
  putEntry_of_not_mem value h

theorem entries_foldl_insert (entries : List (String × α)) (m : OrderedMap α)
    (h : (m.names ++ entries.map Prod.fst).Nodup) :
    (entries.foldl (fun m entry => m.insert entry.1 entry.2) m).entries = m.entries ++ entries := by
  induction entries generalizing m with
  | nil => simp
  | cons entry rest ih =>
      have hnew : entry.1 ∉ m.names := by
        intro hmem
        have hdisjoint := (List.nodup_append.mp h).2.2
        exact hdisjoint entry.1 hmem entry.1 (by simp) rfl
      have hnames : (m.insert entry.1 entry.2).names = m.names ++ [entry.1] := by
        rw [names_insert, if_neg hnew]
      rw [List.foldl_cons, ih, entries_insert_of_not_mem _ hnew, List.append_assoc]
      · rfl
      · simpa [hnames] using h

theorem entries_ofList {entries : List (String × α)} (h : (entries.map Prod.fst).Nodup) :
    (ofList entries).entries = entries :=
  entries_foldl_insert entries empty h

theorem mem_names_foldl_insert (name : String) (entries : List (String × α)) (m : OrderedMap α) :
    name ∈ (entries.foldl (fun m entry => m.insert entry.1 entry.2) m).names ↔
      name ∈ m.names ∨ name ∈ entries.map Prod.fst := by
  induction entries generalizing m with
  | nil => simp
  | cons entry rest ih =>
      rw [List.foldl_cons, ih, names_insert, List.map_cons, List.mem_cons]
      by_cases h : entry.1 ∈ m.names
      · rw [if_pos h]
        constructor
        · exact Or.imp_right .inr
        · rintro (hm | rfl | hrest)
          · exact .inl hm
          · exact .inl h
          · exact .inr hrest
      · rw [if_neg h, List.mem_append, List.mem_singleton, or_assoc]

theorem mem_names_ofList (name : String) (entries : List (String × α)) :
    name ∈ (ofList entries).names ↔ name ∈ entries.map Prod.fst := by
  rw [ofList, mem_names_foldl_insert, names_empty]
  simp

theorem ofList_concat (entries : List (String × α)) (entry : String × α) :
    ofList (entries ++ [entry]) = (ofList entries).insert entry.1 entry.2 := by
  rw [ofList, List.foldl_append]
  rfl

/-- The names stand in the order in which they are first inserted. -/
theorem names_ofList (entries : List (String × α)) :
    (ofList entries).names = (entries.map Prod.fst).eraseDups := by
  induction entries using List.reverseRecOn with
  | nil => rfl
  | append_singleton entries entry ih =>
      rw [ofList_concat, names_insert, List.map_append, List.eraseDups_append, ih]
      by_cases h : entry.1 ∈ entries.map Prod.fst
      · simp [h, List.removeAll]
      · simp [h, List.removeAll, List.eraseDups_cons]

/-- Under each name stands the value that is inserted last. -/
theorem get?_ofList (name : String) (entries : List (String × α)) :
    (ofList entries).get? name = findEntry name entries.reverse := by
  induction entries using List.reverseRecOn with
  | nil => rfl
  | append_singleton entries entry ih =>
      rw [ofList_concat, get?_insert, ih, List.reverse_append, List.reverse_singleton,
        List.singleton_append, findEntry]
      simp only [eq_comm]

/-- A map has as many entries as were inserted exactly if no name came twice. -/
theorem size_ofList_eq_iff (entries : List (String × α)) :
    (ofList entries).size = entries.length ↔ (entries.map Prod.fst).Nodup := by
  constructor
  · intro hsize
    have hsubset : (ofList entries).names ⊆ entries.map Prod.fst :=
      fun name hname => (mem_names_ofList name entries).mp hname
    have hlength : (entries.map Prod.fst).length ≤ (ofList entries).names.length := by
      rw [List.length_map, names, List.length_map]
      exact Nat.le_of_eq hsize.symm
    have hperm : (ofList entries).names.Perm (entries.map Prod.fst) :=
      ((ofList entries).nodup.subperm hsubset).perm_of_length_le hlength
    exact hperm.nodup_iff.mp (ofList entries).nodup
  · intro hnodup
    rw [size, entries_ofList hnodup]

end OrderedMap

end TableQuery
