import ContainerStack.Registry
import Mathlib.Data.List.Nodup

/-!
**What registries keep.**

* `OrderedMap.get?_eq_some`: the look-up finds exactly the pairs of a map.
* `OrderedMap.mem_entries_insert`: an insertion adds one pair and may take one away.
* `Registry.Every`: every entity stands under its own name and has a property.
* `Registry.Every.put`: what it takes to keep that.
* `Registry.Every.names_nodup`, `Registry.Every.eq_of_name`: an entity is determined by its name.
* `Registry.Covers`: no name of another registry is missing.
-/

namespace ContainerStack

namespace OrderedMap

variable {α β : Type}

theorem lookup_eq_some {entries : List (String × α)} (distinct : (entries.map Prod.fst).Nodup)
    {key : String} {value : α} : entries.lookup key = some value ↔ (key, value) ∈ entries := by
  induction entries with
  | nil => simp
  | cons entry rest ih =>
    obtain ⟨name, first⟩ := entry
    rw [List.map_cons, List.nodup_cons] at distinct
    by_cases same : key = name
    · subst same
      have absent : ∀ other, (key, other) ∉ rest := fun other member =>
        distinct.1 (List.mem_map.mpr ⟨(key, other), member, rfl⟩)
      simp [absent, eq_comm]
    · have differs : (key == name) = false := by simpa using same
      simp [List.lookup_cons, differs, ih distinct.2, same]

/-- **The look-up finds exactly the pairs of a map.** -/
theorem get?_eq_some {entriesMap : OrderedMap α} {key : String} {value : α} :
    entriesMap.get? key = some value ↔ (key, value) ∈ entriesMap.entries :=
  lookup_eq_some entriesMap.nodup_keys

theorem get?_isSome {entriesMap : OrderedMap α} {key : String} :
    (entriesMap.get? key).isSome = true ↔ key ∈ entriesMap.keys := by
  rw [Option.isSome_iff_exists, keys, List.mem_map]
  constructor
  · rintro ⟨value, found⟩
    exact ⟨(key, value), get?_eq_some.mp found, rfl⟩
  · rintro ⟨⟨_, value⟩, member, rfl⟩
    exact ⟨value, get?_eq_some.mpr member⟩

theorem mem_insertEntry {key : String} {value : α} {entries : List (String × α)}
    {entry : String × α} (member : entry ∈ insertEntry key value entries) :
    entry = (key, value) ∨ entry ∈ entries := by
  induction entries with
  | nil => exact .inl (List.mem_singleton.mp member)
  | cons first rest ih =>
    obtain ⟨name, old⟩ := first
    unfold insertEntry at member
    split at member
    · rename_i same
      subst same
      rcases List.mem_cons.mp member with here | later
      · exact .inl here
      · exact .inr (List.mem_cons_of_mem _ later)
    · rcases List.mem_cons.mp member with here | later
      · exact .inr (here ▸ List.mem_cons_self)
      · exact (ih later).imp id (List.mem_cons_of_mem _)

/-- **An insertion adds one pair and may take one away.** -/
theorem mem_entries_insert {entriesMap : OrderedMap α} {key : String} {value : α}
    {entry : String × α} (member : entry ∈ (entriesMap.insert key value).entries) :
    entry = (key, value) ∨ entry ∈ entriesMap.entries := mem_insertEntry member

theorem mem_keys_insert {entriesMap : OrderedMap α} {key other : String} {value : α} :
    other ∈ (entriesMap.insert key value).keys ↔ other = key ∨ other ∈ entriesMap.keys := by
  rw [keys_insert]
  split
  · rename_i there
    exact ⟨.inr, fun either => either.elim (fun same => same ▸ there) id⟩
  · simp [or_comm]

end OrderedMap

namespace Registry

variable {α : Type}

theorem contains_iff {registry : Registry α} {name : String} :
    registry.contains name = true ↔ name ∈ registry.names := OrderedMap.contains_eq_true

theorem get?_eq_some {registry : Registry α} {name : String} {entity : α} :
    registry.get? name = some entity ↔ (name, entity) ∈ registry.entries.entries :=
  OrderedMap.get?_eq_some

theorem get?_of_contains {registry : Registry α} {name : String}
    (there : registry.contains name = true) : ∃ entity, registry.get? name = some entity :=
  Option.isSome_iff_exists.mp (OrderedMap.get?_isSome.mpr (contains_iff.mp there))

/-- No name of the first registry is missing in the second. -/
def Covers (first second : Registry α) : Prop :=
  ∀ name, first.contains name = true → second.contains name = true

theorem Covers.refl (registry : Registry α) : registry.Covers registry := fun _ there => there

section Keyed

variable [Named α] {registry after : Registry α} {entity : α} {name : String}

theorem ensureVacant_eq_ok {answer : Unit} :
    registry.ensureVacant name = .ok answer ↔ registry.contains name = false := by
  unfold ensureVacant
  split <;> simp_all

/-- **A registration succeeds exactly under a free name**, and inserts the entity there. -/
theorem register_eq_ok : registry.register entity = .ok after ↔
    registry.contains (Named.name entity) = false ∧
      after = registry.put (Named.name entity) entity := by
  unfold register ensureVacant
  split
  · rename_i taken
    simp [taken, bind, Except.bind]
  · rename_i free
    simp [free, bind, Except.bind, pure, Except.pure, put, eq_comm]

/-- **A replacement succeeds exactly under a name that is taken**, and inserts the entity there. -/
theorem replace_eq_ok : registry.replace entity = .ok after ↔
    registry.contains (Named.name entity) = true ∧
      after = registry.put (Named.name entity) entity := by
  unfold replace
  split
  · rename_i taken
    simp [taken, put, eq_comm]
  · rename_i free
    simp [free]

omit [Named α] in
theorem contains_put {other : String} : (registry.put name entity).contains other = true ↔
    other = name ∨ registry.contains other = true := by
  rw [contains_iff, contains_iff]
  exact OrderedMap.mem_keys_insert

omit [Named α] in
theorem get?_put {other : String} : (registry.put name entity).get? other =
    if other = name then some entity else registry.get? other :=
  OrderedMap.get?_insert registry.entries name other entity

omit [Named α] in
/-- **Registries never lose a name.** -/
theorem covers_put : registry.Covers (registry.put name entity) :=
  fun _ there => contains_put.mpr (.inr there)

/-- Every entity stands under its own name and has a property. -/
def Every (holds : α → Prop) (registry : Registry α) : Prop :=
  ∀ entry ∈ registry.entries.entries, Named.name entry.2 = entry.1 ∧ holds entry.2

variable {holds : α → Prop}

theorem Every.empty : (Registry.empty : Registry α).Every holds := fun _ member => by cases member

theorem Every.mono {weaker : α → Prop} (every : registry.Every holds)
    (follows : ∀ entity, holds entity → weaker entity) : registry.Every weaker :=
  fun entry member => (every entry member).imp id (follows entry.2)

/-- **Putting an entity under its own name keeps what it has itself.** -/
theorem Every.put (every : registry.Every holds) (has : holds entity) :
    (registry.put (Named.name entity) entity).Every holds := by
  intro entry member
  rcases OrderedMap.mem_entries_insert member with rfl | before
  · exact ⟨rfl, has⟩
  · exact every entry before

theorem Every.get? (every : registry.Every holds) (found : registry.get? name = some entity) :
    Named.name entity = name ∧ holds entity := every _ (get?_eq_some.mp found)

theorem Every.of_mem (every : registry.Every holds) (member : entity ∈ registry.toList) :
    holds entity := by
  obtain ⟨entry, listed, rfl⟩ := List.mem_map.mp member
  exact (every entry listed).2

/-- An entity is found under its own name. -/
theorem Every.get?_of_mem (every : registry.Every holds) (member : entity ∈ registry.toList) :
    registry.get? (Named.name entity) = some entity := by
  obtain ⟨entry, listed, rfl⟩ := List.mem_map.mp member
  rw [(every entry listed).1]
  exact get?_eq_some.mpr listed

/-- The names of the entities are the keys. -/
theorem Every.names_eq (every : registry.Every holds) :
    registry.toList.map Named.name = registry.names := by
  show (registry.entries.entries.map Prod.snd).map Named.name =
    registry.entries.entries.map Prod.fst
  rw [List.map_map]
  exact List.map_congr_left fun entry member => (every entry member).1

/-- **No name occurs twice.** -/
theorem Every.names_nodup (every : registry.Every holds) :
    (registry.toList.map Named.name).Nodup := by
  rw [every.names_eq]
  exact registry.entries.keys_nodup

theorem Every.eq_of_name (every : registry.Every holds) {other : α}
    (listed : entity ∈ registry.toList) (alsoListed : other ∈ registry.toList)
    (same : Named.name entity = Named.name other) : entity = other :=
  List.inj_on_of_nodup_map every.names_nodup listed alsoListed same

end Keyed

end Registry

end ContainerStack
