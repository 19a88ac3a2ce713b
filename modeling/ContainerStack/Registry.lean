import ContainerStack.Edit
import ContainerStack.OrderedMap

/-!
**Registries of named entities.**

A registry holds entities under their names in the order in which they were registered. A name is
taken once and for all: registering a second entity of the name is refused, and an entity is only
ever replaced in its place.

* `Registry.register`: appends an entity whose name is free.
* `Registry.replace`: puts an edited entity in the place of the one with its name.
* `Registry.visit`: runs an edit on every entity in order, up to the first refusal.
-/

namespace ContainerStack

/-- An entity with a kind and a name. -/
class Named (α : Type) where
  kind : EntityKind
  name : α → String

/-- Entities under their names, in order of registration. -/
structure Registry (α : Type) where
  entries : OrderedMap α
  deriving DecidableEq

namespace Registry

variable {α β : Type}

/-- The registry without entities. -/
def empty : Registry α := ⟨.empty⟩

instance : EmptyCollection (Registry α) := ⟨empty⟩

instance : Inhabited (Registry α) := ⟨empty⟩

/-- The names in order of registration. -/
def names (registry : Registry α) : List String := registry.entries.keys

/-- The entities in order of registration. -/
def toList (registry : Registry α) : List α := registry.entries.values

/-- The entity of a name. -/
def get? (registry : Registry α) (name : String) : Option α := registry.entries.get? name

/-- Whether a name is taken. -/
def contains (registry : Registry α) (name : String) : Bool := registry.entries.contains name

/-- The number of entities. -/
def size (registry : Registry α) : Nat := registry.entries.size

/-- Whether there is no entity. -/
def isEmpty (registry : Registry α) : Bool := registry.entries.isEmpty

variable [Named α]

/-- Accepts a name that is free. -/
def ensureVacant (registry : Registry α) (name : String) : Except Fault Unit :=
  if registry.contains name then .error (.duplicate (Named.kind α) name) else .ok ()

/-- Appends an entity whose name is free. -/
def register (registry : Registry α) (entity : α) : Except Fault (Registry α) := do
  registry.ensureVacant (Named.name entity)
  return ⟨registry.entries.insert (Named.name entity) entity⟩

/-- Puts an edited entity in the place of the one with its name. -/
def replace (registry : Registry α) (entity : α) : Except Fault (Registry α) :=
  if registry.contains (Named.name entity) then
    .ok ⟨registry.entries.insert (Named.name entity) entity⟩
  else .error (.obstructed (.unregistered (Named.kind α) (Named.name entity)))

omit [Named α] in
/-- Puts an entity in the place of the one under a name. -/
def put (registry : Registry α) (name : String) (entity : α) : Registry α :=
  ⟨registry.entries.insert name entity⟩

omit [Named α] in
/-- Runs an edit on every entry in order, up to the first refusal. What the edits change stays
changed, and later entries are left alone. -/
def visitEntries (edit : Edit α β) :
    List (String × α) → Except Fault (List β) × List (String × α)
  | [] => (.ok [], [])
  | (name, entity) :: rest =>
    match edit.apply entity with
    | (.error fault, left) => (.error fault, (name, left) :: rest)
    | (.ok answer, left) =>
      let (answers, others) := visitEntries edit rest
      (answers.map (answer :: ·), (name, left) :: others)

omit [Named α] in
theorem map_fst_visitEntries (edit : Edit α β) (entries : List (String × α)) :
    (visitEntries edit entries).2.map Prod.fst = entries.map Prod.fst := by
  induction entries with
  | nil => rfl
  | cons entry rest ih =>
    obtain ⟨name, entity⟩ := entry
    unfold visitEntries
    split <;> simp_all

omit [Named α] in
/-- Runs an edit on every entity in order, up to the first refusal. -/
def visit (registry : Registry α) (edit : Edit α β) : Except Fault (List β) × Registry α :=
  let visited := visitEntries edit registry.entries.entries
  (visited.1, ⟨visited.2, by
    rw [map_fst_visitEntries]
    exact registry.entries.nodup_keys⟩)

omit [Named α] in
/-- Applies a function to every entity. -/
def map (change : α → β) (registry : Registry α) : Registry β := ⟨registry.entries.map change⟩

omit [Named α] in
@[simp] theorem names_visit (registry : Registry α) (edit : Edit α β) :
    (registry.visit edit).2.names = registry.names :=
  map_fst_visitEntries edit registry.entries.entries

end Registry

end ContainerStack
