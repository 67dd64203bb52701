/-!
Maps from names to values that keep the order of insertion.

A name that is inserted again keeps its place and takes the new value; a new name goes to the end. The names of a map
are pairwise distinct.
-/

namespace TableQuery

/-- Puts a value under a name in a list of entries: in place if the name is there, at the end if not. -/
def putEntry {α : Type} (name : String) (value : α) : List (String × α) → List (String × α)
  | [] => [(name, value)]
  | entry :: rest => if entry.1 = name then (name, value) :: rest else entry :: putEntry name value rest

/-- Puts a value under a name in a list of entries, and gives the value that was under it before. -/
def exchangeEntry {α : Type} (name : String) (value : α) : List (String × α) → Option α × List (String × α)
  | [] => (none, [(name, value)])
  | entry :: rest =>
    if entry.1 = name then (some entry.2, (name, value) :: rest)
    else
      let (old, others) := exchangeEntry name value rest
      (old, entry :: others)

/-- The value under a name in a list of entries. -/
def findEntry {α : Type} (name : String) : List (String × α) → Option α
  | [] => none
  | entry :: rest => if entry.1 = name then some entry.2 else findEntry name rest

theorem map_fst_putEntry {α : Type} (name : String) (value : α) (entries : List (String × α)) :
    (putEntry name value entries).map Prod.fst =
      if name ∈ entries.map Prod.fst then entries.map Prod.fst else entries.map Prod.fst ++ [name] := by
  induction entries with
  | nil => simp [putEntry]
  | cons entry rest ih =>
    by_cases h : entry.1 = name
    · simp [putEntry, h]
    · simp only [putEntry, h, ↓reduceIte, List.map_cons, ih, List.mem_cons, Ne.symm h, false_or]
      split <;> simp

theorem nodup_map_fst_putEntry {α : Type} (name : String) (value : α) {entries : List (String × α)}
    (h : (entries.map Prod.fst).Nodup) : ((putEntry name value entries).map Prod.fst).Nodup := by
  rw [map_fst_putEntry]
  split
  · exact h
  · next absent =>
    rw [List.nodup_append]
    refine ⟨h, by simp, ?_⟩
    intro a ha b hb hab
    rw [List.mem_singleton] at hb
    exact absent (hb ▸ hab ▸ ha)

theorem findEntry_putEntry {α : Type} (name other : String) (value : α) (entries : List (String × α)) :
    findEntry other (putEntry name value entries) = if other = name then some value else findEntry other entries := by
  induction entries with
  | nil => simp [putEntry, findEntry, eq_comm]
  | cons entry rest ih =>
    by_cases h : entry.1 = name
    · subst h
      by_cases hn : other = entry.1
      · simp [putEntry, findEntry, hn]
      · simp [putEntry, findEntry, hn, Ne.symm hn]
    · by_cases hn : entry.1 = other
      · subst hn
        simp [putEntry, findEntry, h]
      · simp [putEntry, findEntry, h, hn, ih]

theorem exchangeEntry_eq {α : Type} (name : String) (value : α) (entries : List (String × α)) :
    exchangeEntry name value entries = (findEntry name entries, putEntry name value entries) := by
  induction entries with
  | nil => rfl
  | cons entry rest ih =>
    by_cases h : entry.1 = name
    · simp [exchangeEntry, findEntry, putEntry, h]
    · simp [exchangeEntry, findEntry, putEntry, h, ih]

theorem nodup_map_fst_exchangeEntry {α : Type} (name : String) (value : α) {entries : List (String × α)}
    (h : (entries.map Prod.fst).Nodup) : ((exchangeEntry name value entries).2.map Prod.fst).Nodup := by
  rw [exchangeEntry_eq]
  exact nodup_map_fst_putEntry name value h

/-- A map from names to values, in order of insertion. -/
structure OrderedMap (α : Type) where
  entries : List (String × α)
  nodup : (entries.map Prod.fst).Nodup
deriving DecidableEq

namespace OrderedMap

variable {α : Type}

def empty : OrderedMap α := ⟨[], List.nodup_nil⟩

instance : Inhabited (OrderedMap α) := ⟨empty⟩

/-- The names, in order. -/
def names (m : OrderedMap α) : List String := m.entries.map Prod.fst

def size (m : OrderedMap α) : Nat := m.entries.length

def isEmpty (m : OrderedMap α) : Bool := m.entries.isEmpty

/-- The value under a name, if there is one. -/
def get? (m : OrderedMap α) (name : String) : Option α := findEntry name m.entries

def contains (m : OrderedMap α) (name : String) : Bool := (m.get? name).isSome

/-- Puts a value under a name. -/
def insert (m : OrderedMap α) (name : String) (value : α) : OrderedMap α :=
  ⟨putEntry name value m.entries, nodup_map_fst_putEntry name value m.nodup⟩

/-- Puts a value under a name, and gives the value that was under it before. -/
def exchange (m : OrderedMap α) (name : String) (value : α) : Option α × OrderedMap α :=
  let exchanged := exchangeEntry name value m.entries
  (exchanged.1, ⟨exchanged.2, nodup_map_fst_exchangeEntry name value m.nodup⟩)

/-- The map that holds some entries, inserted one after the other. -/
def ofList (entries : List (String × α)) : OrderedMap α :=
  entries.foldl (fun m entry => m.insert entry.1 entry.2) empty

@[simp]
theorem get?_empty (name : String) : (empty : OrderedMap α).get? name = none := rfl

@[simp]
theorem names_empty : (empty : OrderedMap α).names = [] := rfl

theorem exchange_eq (m : OrderedMap α) (name : String) (value : α) :
    m.exchange name value = (m.get? name, m.insert name value) := by
  simp only [exchange, exchangeEntry_eq]
  rfl

theorem names_insert (m : OrderedMap α) (name : String) (value : α) :
    (m.insert name value).names = if name ∈ m.names then m.names else m.names ++ [name] :=
  map_fst_putEntry name value m.entries

@[simp]
theorem get?_insert (m : OrderedMap α) (name other : String) (value : α) :
    (m.insert name value).get? other = if other = name then some value else m.get? other :=
  findEntry_putEntry name other value m.entries

end OrderedMap

end TableQuery
