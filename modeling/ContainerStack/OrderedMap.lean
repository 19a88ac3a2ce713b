/-!
**Maps that keep the order of insertion.**

An `OrderedMap α` holds pairs of a key and a value, each key once, in the order in which the keys
were first inserted. Inserting a key that is there keeps its place and replaces its value.

* `keys_insert`: the keys after an insertion.
* `get?_insert`: the look-up after an insertion.
* `ofList`: a list of pairs read from the left, so the first place and the last value of a key win.
-/

namespace ContainerStack

/-- Pairs of a key and a value in order of first insertion, each key once. -/
structure OrderedMap (α : Type) where
  entries : List (String × α)
  nodup_keys : (entries.map Prod.fst).Nodup
  deriving DecidableEq

namespace OrderedMap

variable {α β : Type}

/-- The map without entries. -/
def empty : OrderedMap α := ⟨[], List.nodup_nil⟩

instance : EmptyCollection (OrderedMap α) := ⟨empty⟩

instance : Inhabited (OrderedMap α) := ⟨empty⟩

/-- The keys in order of first insertion. -/
def keys (entriesMap : OrderedMap α) : List String := entriesMap.entries.map Prod.fst

/-- The values in the order of their keys. -/
def values (entriesMap : OrderedMap α) : List α := entriesMap.entries.map Prod.snd

/-- The pairs in order of first insertion. -/
def toList (entriesMap : OrderedMap α) : List (String × α) := entriesMap.entries

/-- The number of keys. -/
def size (entriesMap : OrderedMap α) : Nat := entriesMap.entries.length

/-- Whether there is no key. -/
def isEmpty (entriesMap : OrderedMap α) : Bool := entriesMap.entries.isEmpty

/-- The value of a key. -/
def get? (entriesMap : OrderedMap α) (key : String) : Option α := entriesMap.entries.lookup key

/-- Whether a key is there. -/
def contains (entriesMap : OrderedMap α) (key : String) : Bool := entriesMap.keys.contains key

/-- Replaces the value of a key in its place, or appends the pair. -/
def insertEntry (key : String) (value : α) : List (String × α) → List (String × α)
  | [] => [(key, value)]
  | (name, old) :: rest =>
    if name = key then (name, value) :: rest else (name, old) :: insertEntry key value rest

theorem map_fst_insertEntry (key : String) (value : α) (entries : List (String × α)) :
    (insertEntry key value entries).map Prod.fst =
      if key ∈ entries.map Prod.fst then entries.map Prod.fst
      else entries.map Prod.fst ++ [key] := by
  induction entries with
  | nil => simp [insertEntry]
  | cons entry rest ih =>
    obtain ⟨name, old⟩ := entry
    by_cases same : name = key
    · simp [insertEntry, same]
    · by_cases present : key ∈ rest.map Prod.fst
      · simp [insertEntry, same, ih, present]
      · simp [insertEntry, same, ih, present, Ne.symm same]

theorem nodup_insertEntry {key : String} {value : α} {entries : List (String × α)}
    (distinct : (entries.map Prod.fst).Nodup) :
    ((insertEntry key value entries).map Prod.fst).Nodup := by
  rw [map_fst_insertEntry]
  split
  · exact distinct
  · rename_i absent
    exact List.nodup_append.2 ⟨distinct, by simp, by
      intro first member second isKey same
      simp only [List.mem_singleton] at isKey
      exact absent (isKey ▸ same ▸ member)⟩

/-- Gives a key a value: in its place if it is there, else at the end. -/
def insert (entriesMap : OrderedMap α) (key : String) (value : α) : OrderedMap α :=
  ⟨insertEntry key value entriesMap.entries, nodup_insertEntry entriesMap.nodup_keys⟩

/-- Removes a key; the others keep their order. -/
def erase (entriesMap : OrderedMap α) (key : String) : OrderedMap α :=
  ⟨entriesMap.entries.filter fun entry => entry.1 != key,
    (List.filter_sublist.map Prod.fst).nodup entriesMap.nodup_keys⟩

/-- The map of a list of pairs, inserted from the left. -/
def ofList (pairs : List (String × α)) : OrderedMap α :=
  pairs.foldl (fun entriesMap pair => entriesMap.insert pair.1 pair.2) empty

/-- Inserts every pair of the second map into the first. -/
def merge (first second : OrderedMap α) : OrderedMap α :=
  second.entries.foldl (fun entriesMap pair => entriesMap.insert pair.1 pair.2) first

/-- Applies a function to every value. -/
def map (change : α → β) (entriesMap : OrderedMap α) : OrderedMap β :=
  ⟨entriesMap.entries.map fun entry => (entry.1, change entry.2), by
    simpa [Function.comp_def] using entriesMap.nodup_keys⟩

@[ext] theorem ext {first second : OrderedMap α} (same : first.entries = second.entries) :
    first = second := by
  cases first
  cases second
  cases same
  rfl

@[simp] theorem keys_empty : (empty : OrderedMap α).keys = [] := rfl

theorem keys_insert (entriesMap : OrderedMap α) (key : String) (value : α) :
    (entriesMap.insert key value).keys =
      if key ∈ entriesMap.keys then entriesMap.keys else entriesMap.keys ++ [key] :=
  map_fst_insertEntry key value entriesMap.entries

@[simp] theorem keys_map (change : α → β) (entriesMap : OrderedMap α) :
    (entriesMap.map change).keys = entriesMap.keys := by
  simp [keys, map, Function.comp_def]

theorem keys_nodup (entriesMap : OrderedMap α) : entriesMap.keys.Nodup := entriesMap.nodup_keys

@[simp] theorem contains_eq_true {entriesMap : OrderedMap α} {key : String} :
    entriesMap.contains key = true ↔ key ∈ entriesMap.keys := by
  simp [contains]

theorem lookup_insertEntry (key other : String) (value : α) (entries : List (String × α)) :
    (insertEntry key value entries).lookup other =
      if other = key then some value else entries.lookup other := by
  induction entries with
  | nil =>
    by_cases same : other = key <;> simp [insertEntry, List.lookup_cons, same]
    split <;> simp_all
  | cons entry rest ih =>
    obtain ⟨name, old⟩ := entry
    by_cases here : name = key
    · subst here
      by_cases same : other = name
      · simp [insertEntry, same]
      · have differs : (other == name) = false := by simpa using same
        simp [insertEntry, List.lookup_cons, same, differs]
    · by_cases same : other = name
      · subst same
        simp [insertEntry, here]
      · have differs : (other == name) = false := by simpa using same
        simp [insertEntry, List.lookup_cons, here, differs, ih]

theorem get?_insert (entriesMap : OrderedMap α) (key other : String) (value : α) :
    (entriesMap.insert key value).get? other =
      if other = key then some value else entriesMap.get? other :=
  lookup_insertEntry key other value entriesMap.entries

end OrderedMap

end ContainerStack
