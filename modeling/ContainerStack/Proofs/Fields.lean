import ContainerStack.OrderedMap
import ContainerStack.Proofs.Writing

/-!
**Maps whose values may be missing.**

Much of a document consists of keys that are written only if there is something to write under them.

* `Field`, `Tree.ofFields`: keys with the values they may have, and the map of those that have one.
* `Writes`: steps that write the fields that have a value, and nothing at all if none has.
* `Writes.scalarIfSome`, `Writes.itemsBlock`, …: one lemma for each helper that writes a field.
-/

namespace ContainerStack.Yaml

/-- A key with its value, if it has one. -/
abbrev Field := String × Option Tree

/-- The fields that have a value. -/
def Field.given (fields : List Field) : List (String × Tree) :=
  fields.filterMap fun field => field.2.map fun value => (field.1, value)

namespace Tree

/-- The map of the fields that have a value. -/
def ofFields (fields : List Field) : Tree := (record? (Field.given fields)).getD .empty

/-- The map of the fields that have a value, if one of them has. -/
def fields? (fields : List Field) : Option Tree := record? (Field.given fields)

/-- The list of some strings, if there is one. -/
def texts? (values : List String) : Option Tree := list? (values.map .text)

/-- The map of some pairs of strings, if there is one. -/
def pairs? (entries : List (String × String)) : Option Tree :=
  record? (entries.map fun entry => (entry.1, .text entry.2))

end Tree

namespace Field

theorem given_append (first second : List Field) :
    given (first ++ second) = given first ++ given second := List.filterMap_append

theorem keys_given (fields : List Field) :
    ((given fields).map Prod.fst).Sublist (fields.map Prod.fst) := by
  induction fields with
  | nil => exact List.Sublist.slnil
  | cons field rest ih =>
    obtain ⟨key, value⟩ := field
    cases value with
    | none => exact ih.cons key
    | some tree => exact ih.cons_cons key

end Field

namespace Reading

/-- The parts of entries. -/
def entryParts (entries : List (String × Tree)) : List Part :=
  entries.map fun entry => .entry entry.1 entry.2

/-- The steps write the fields that have a value, and nothing at all if none has. -/
structure Writes (steps : List Step) (fields : List Field) : Prop where
  reads : Reads steps (entryParts (Field.given fields))
  silent : Field.given fields = [] → steps = []

theorem treeOf?_fields {fields : List Field} (distinct : (fields.map Prod.fst).Nodup) :
    treeOf? (entryParts (Field.given fields)) = some (Tree.ofFields fields) :=
  treeOf?_entries ((Field.keys_given fields).nodup distinct)

namespace Writes

variable {first second steps : List Step} {fields others : List Field} {key : String}

theorem append (one : Writes first fields) (two : Writes second others) :
    Writes (first ++ second) (fields ++ others) := by
  constructor
  · rw [Field.given_append, entryParts, List.map_append]
    exact one.reads.append two.reads
  · intro empty
    rw [Field.given_append, List.append_eq_nil_iff] at empty
    rw [one.silent empty.1, two.silent empty.2]
    rfl

/-- Steps that are read as one entry. -/
theorem given {value : Tree} (reads : Reads steps [.entry key value]) :
    Writes steps [(key, some value)] := ⟨reads, nofun⟩

theorem absent (key : String) : Writes [] [(key, none)] := ⟨.nil, fun _ => rfl⟩

/-- Where nothing is written, no field has a value. -/
theorem given_of_nil (nothing : Writes [] fields) : Field.given fields = [] := by
  simpa [entryParts] using nothing.reads.parts_of_nil

theorem ofFields_of_nil (nothing : Writes [] fields) : Tree.ofFields fields = .empty := by
  rw [Tree.ofFields, nothing.given_of_nil]
  rfl

/-- A field without a value at the end. -/
theorem without (body : Writes steps fields) (key : String) :
    Writes steps (fields ++ [(key, none)]) := by
  have both := body.append (absent key)
  rwa [List.append_nil] at both

theorem cons {step : Step} {value : Tree} (one : Reads [step] [.entry key value])
    (rest : Writes steps fields) : Writes (step :: steps) ((key, some value) :: fields) :=
  (given one).append rest

section Keys

variable (key)

/-! ### Fields of one line -/

theorem scalarIfSome (plain : Plain key.toList) (value : Option String) :
    Writes (Step.scalarIfSome key value) [(key, value.map .text)] := by
  cases value with
  | none => exact absent key
  | some text => exact given (.scalar key plain text)

theorem quotedIfSome (plain : Plain key.toList) (value : Option String) :
    Writes (Step.quotedIfSome key value) [(key, value.map .text)] := by
  cases value with
  | none => exact absent key
  | some text => exact given (.quoted key plain text)

/-- A word under a key, if there is one. -/
theorem wordIfSome {α : Type} (plain : Plain key.toList) (value : Option α) {word : α → String}
    (words : ∀ given, Plain (word given).toList) :
    Writes (Step.rawIfSome key (value.map word))
      [(key, value.map fun given => .text (word given))] := by
  cases value with
  | none => exact absent key
  | some given => exact Writes.given (.word key plain (words given))

/-- A list between brackets under a key, if there is one. -/
theorem listIfSome (plain : Plain key.toList) (value : Option (List String)) :
    Writes (Step.rawIfSome key (value.map Scalar.flowList))
      [(key, value.map fun words => .sequence (words.map .text))] := by
  cases value with
  | none => exact absent key
  | some words => exact given (.flowList key plain words)

/-! ### Blocks -/

/-- **A block of fields** that is written in any case. -/
theorem block (plain : Plain key.toList) (body : Writes steps fields)
    (distinct : (fields.map Prod.fst).Nodup) :
    Writes [.block key steps] [(key, some (Tree.ofFields fields))] :=
  given (body.reads.block plain (treeOf?_fields distinct))

/-- **A block of fields** that is left out if none of them has a value. -/
theorem blockUnlessEmpty (plain : Plain key.toList) (body : Writes steps fields)
    (distinct : (fields.map Prod.fst).Nodup) :
    Writes (Step.blockUnlessEmpty key steps) [(key, Tree.fields? fields)] := by
  by_cases empty : Field.given fields = []
  · rw [body.silent empty, Tree.fields?, empty]
    exact absent key
  · have tree : Tree.fields? fields = some (Tree.ofFields fields) := by
      rw [Tree.ofFields, Tree.fields?, Tree.record?, if_neg (by simpa using empty)]
      rfl
    have full : steps.isEmpty = false := by
      cases steps with
      | cons step rest => rfl
      | nil => exact absurd body.given_of_nil empty
    rw [Step.blockUnlessEmpty, full, tree]
    exact body.block key plain distinct

/-- **A block of items**, one for each element. -/
theorem blockOfItems {α : Type} {elements : List α} {write : α → Step} {value : α → Tree}
    (plain : Plain key.toList)
    (each : ∀ element ∈ elements, Reads [write element] [.item (value element)]) :
    Writes (Step.blockUnlessEmpty key (elements.map write))
      [(key, Tree.list? (elements.map value))] := by
  cases elements with
  | nil => exact absent key
  | cons element rest =>
    have items := Reads.map each
    have tree := treeOf?_items ((element :: rest).map value)
    rw [List.map_map] at tree
    exact given (items.block plain tree)

/-- **A block of entries**, of which there is one at least. -/
theorem blockOfParts (plain : Plain key.toList) {entries : List (String × Tree)}
    (body : Reads steps (entryParts entries)) (distinct : (entries.map Prod.fst).Nodup)
    (full : entries ≠ []) : Writes [.block key steps] [(key, Tree.record? entries)] := by
  have map : Tree.record? entries = some (.mapping entries) := if_neg (by simpa using full)
  have tree := treeOf?_entries distinct
  rw [map] at tree ⊢
  exact given (body.block plain tree)

/-- **A block of entries**, one for each element. -/
theorem blockOfEntries {α : Type} {elements : List α} {write : α → Step} {name : α → String}
    {value : α → Tree} (plain : Plain key.toList) (distinct : (elements.map name).Nodup)
    (each : ∀ element ∈ elements, Reads [write element] [.entry (name element) (value element)]) :
    Writes (Step.blockUnlessEmpty key (elements.map write))
      [(key, Tree.record? (elements.map fun element => (name element, value element)))] := by
  cases elements with
  | nil => exact absent key
  | cons element rest =>
    refine blockOfParts key plain ?_ ?_ (List.cons_ne_nil _ _)
    · rw [entryParts, List.map_map]
      exact Reads.map each
    · rw [List.map_map]
      exact distinct

/-- **A block of quoted items**, one for each element. -/
theorem blockOfTexts {α : Type} {elements : List α} {write : α → Step} {text : α → String}
    (plain : Plain key.toList)
    (each : ∀ element ∈ elements, write element = .quotedItem (text element)) :
    Writes (Step.blockUnlessEmpty key (elements.map write))
      [(key, Tree.texts? (elements.map text))] := by
  rw [Tree.texts?, List.map_map]
  refine blockOfItems key plain fun element member => ?_
  rw [each element member]
  exact .quotedItem (text element)

theorem itemsBlock (plain : Plain key.toList) (items : List String) :
    Writes (Step.itemsBlock key items) [(key, Tree.texts? items)] := by
  have block : Writes (Step.blockUnlessEmpty key (items.map .item))
      [(key, Tree.list? (items.map .text))] :=
    blockOfItems key plain fun value _ => .item value
  rwa [Step.blockUnlessEmpty, List.isEmpty_map] at block

/-- A block of quoted values under keys that are plain. -/
theorem blockOfQuoted {entries : List (String × String)} (plain : Plain key.toList)
    (distinct : (entries.map Prod.fst).Nodup)
    (keys : ∀ other ∈ entries.map Prod.fst, Plain other.toList) :
    Writes (Step.blockUnlessEmpty key (entries.map fun (name, value) => .quoted name value))
      [(key, Tree.pairs? entries)] :=
  blockOfEntries key plain distinct fun entry member =>
    .quoted entry.1 (keys entry.1 (List.mem_map_of_mem member)) entry.2

theorem mapBlock (plain : Plain key.toList) (pairs : OrderedMap String) :
    Writes (Step.mapBlock key pairs.toList) [(key, Tree.pairs? pairs.toList)] := by
  cases entries : pairs.toList with
  | nil => exact absent key
  | cons entry rest =>
    have distinct : ((entry :: rest).map Prod.fst).Nodup := entries ▸ pairs.nodup_keys
    have keys : (((entry :: rest).map fun other => (other.1, Tree.text other.2)).map
        Prod.fst).Nodup := by
      rwa [List.map_map]
    have tree := treeOf?_entries keys
    rw [List.map_map] at tree
    exact given (.quotedMap plain tree)

end Keys

end Writes

/-- **An item of fields**, the first of which is on the line of the marker. -/
theorem Reads.itemOfFields {steps : List Step} {fields : List Field} (body : Writes steps fields)
    (begins : steps.head?.any Step.beginsLine = true) (distinct : (fields.map Prod.fst).Nodup) :
    Reads [.itemBlock steps] [.item (Tree.ofFields fields)] :=
  body.reads.itemBlock begins (treeOf?_fields distinct)

/-- **An entry of fields** under a name. -/
theorem Reads.entryOfFields {name : String} {steps : List Step} {fields : List Field}
    (plain : Plain name.toList) (body : Writes steps fields)
    (distinct : (fields.map Prod.fst).Nodup) :
    Reads [.block name steps] [.entry name (Tree.ofFields fields)] :=
  body.reads.block plain (treeOf?_fields distinct)

end Reading

end ContainerStack.Yaml
