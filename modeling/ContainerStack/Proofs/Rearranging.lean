import ContainerStack.Proofs.Building
import Mathlib.Data.List.Perm.Basic

/-!
**The order of declarations does not matter.**

What an entry makes depends on which names are declared and not on where: under each name the stack
of a definition has what the entry of that name makes on its own. So definitions with the same
entries in another order are built together or not at all, and into stacks with the same entities.

* `Registry.MadeOf.rearranged`: entries in another order make the same entities under their names.
* `StackDefinition.Describes.rearranged`: so a rearranged definition describes a stack with the same
  entities.
* `build_rearranged`: building, for every order of the entries.
-/

namespace ContainerStack

/-! ### Entries in another order -/

theorem OrderedMap.get?_perm {α : Type} {first second : OrderedMap α}
    (rearranged : first.entries.Perm second.entries) (key : String) :
    second.get? key = first.get? key := by
  ext value
  rw [OrderedMap.get?_eq_some, OrderedMap.get?_eq_some, rearranged.mem_iff]

theorem OrderedMap.contains_perm {α : Type} {first second : OrderedMap α}
    (rearranged : first.entries.Perm second.entries) : second.contains = first.contains := by
  funext key
  rw [Bool.eq_iff_iff, OrderedMap.contains_eq_true, OrderedMap.contains_eq_true]
  exact (rearranged.map Prod.fst).mem_iff.symm

/-- Two registries have the same entities under the same names, in whatever order. -/
def Registry.SameEntities {α : Type} (first second : Registry α) : Prop :=
  ∀ name, second.get? name = first.get? name

/-- **Entries in another order make the same entities under their names.** -/
theorem Registry.MadeOf.rearranged {α Spec : Type} {make : String → Spec → Except Fault α}
    {first second : OrderedMap Spec} {registry : Registry α} (made : registry.MadeOf make first)
    (rearranged : first.entries.Perm second.entries) :
    ∃ other : Registry α, other.MadeOf make second ∧ registry.SameEntities other := by
  -- Each entry takes what it makes along to its new place.
  obtain ⟨entries, makes, moved⟩ := List.perm_comp_forall₂ rearranged.symm made
  have distinct : (entries.map Prod.fst).Nodup :=
    (moved.map Prod.fst).nodup_iff.mpr registry.entries.nodup_keys
  exact ⟨⟨entries, distinct⟩, makes, OrderedMap.get?_perm moved.symm⟩

/-! ### Definitions in another order -/

/-- The second definition has the entries of the first one, each map in an order of its own. -/
structure StackDefinition.Rearranged (first second : StackDefinition) : Prop where
  name : second.name = first.name
  environment : second.environment = first.environment
  envFiles : second.envFiles = first.envFiles
  services : first.services.entries.Perm second.services.entries
  networks : first.networks.entries.Perm second.networks.entries
  volumes : first.volumes.entries.Perm second.volumes.entries
  secrets : first.secrets.entries.Perm second.secrets.entries
  configs : first.configs.entries.Perm second.configs.entries

/-- Two stacks have the same entities under the same names and are the same otherwise; only the
order of registration may differ. -/
structure Stack.SameEntities (first second : Stack) : Prop where
  services : first.services.SameEntities second.services
  networks : first.networks.SameEntities second.networks
  volumes : first.volumes.SameEntities second.volumes
  secrets : first.secrets.SameEntities second.secrets
  configs : first.configs.SameEntities second.configs
  mainService : second.mainService = first.mainService
  beside : second = { first with
    services := second.services
    networks := second.networks
    volumes := second.volumes
    secrets := second.secrets
    configs := second.configs }

namespace StackDefinition

section Order

variable {first second : StackDefinition}

theorem Rearranged.symm (rearranged : first.Rearranged second) : second.Rearranged first where
  name := rearranged.name.symm
  environment := rearranged.environment.symm
  envFiles := rearranged.envFiles.symm
  services := rearranged.services.symm
  networks := rearranged.networks.symm
  volumes := rearranged.volumes.symm
  secrets := rearranged.secrets.symm
  configs := rearranged.configs.symm

/-- What is declared does not depend on the order. -/
theorem Rearranged.lookup_eq (rearranged : first.Rearranged second) (paths : KnownPaths) :
    second.lookup paths = first.lookup paths := by
  unfold lookup
  rw [OrderedMap.contains_perm rearranged.services, OrderedMap.contains_perm rearranged.networks,
    OrderedMap.contains_perm rearranged.volumes, OrderedMap.contains_perm rearranged.secrets,
    OrderedMap.contains_perm rearranged.configs]

theorem Rearranged.applySettings_eq (rearranged : first.Rearranged second) :
    second.applySettings = first.applySettings := by
  unfold applySettings
  rw [rearranged.environment, rearranged.envFiles]

/-- At most one entry asks to be the main service, and it asks wherever it stands. -/
theorem Rearranged.mains_eq (rearranged : first.Rearranged second) {main : Option String}
    (same : Stack.mains first.services.entries = main.toList) :
    Stack.mains second.services.entries = main.toList := by
  have moved : (Stack.mains first.services.entries).Perm (Stack.mains second.services.entries) :=
    (rearranged.services.filter _).map Prod.fst
  rw [same] at moved
  cases main with
  | none => exact moved.symm.eq_nil
  | some only => exact moved.symm.eq_singleton

/-- **A rearranged definition describes a stack with the same entities.** -/
theorem Describes.rearranged {base one : Stack} (describes : first.Describes base one)
    (rearranged : first.Rearranged second) :
    ∃ two, second.Describes base two ∧ one.SameEntities two := by
  obtain ⟨networks, madeNetworks, sameNetworks⟩ := describes.networks.rearranged rearranged.networks
  obtain ⟨volumes, madeVolumes, sameVolumes⟩ := describes.volumes.rearranged rearranged.volumes
  obtain ⟨secrets, madeSecrets, sameSecrets⟩ := describes.secrets.rearranged rearranged.secrets
  obtain ⟨configs, madeConfigs, sameConfigs⟩ := describes.configs.rearranged rearranged.configs
  obtain ⟨services, madeServices, sameServices⟩ := describes.services.rearranged rearranged.services
  rw [← rearranged.lookup_eq] at madeSecrets madeConfigs madeServices
  refine ⟨{ one with
    networks := networks
    volumes := volumes
    secrets := secrets
    configs := configs
    services := services }, ?_, ?_⟩
  · exact {
      networks := madeNetworks
      volumes := madeVolumes
      secrets := madeSecrets
      configs := madeConfigs
      services := madeServices
      main := rearranged.mains_eq describes.main
      beside := by rw [describes.beside] }
  · exact ⟨sameServices, sameNetworks, sameVolumes, sameSecrets, sameConfigs, rfl, rfl⟩

/-- **What a definition is built into, a rearranged one is built into but for the order.** -/
theorem build_of_rearranged (rearranged : first.Rearranged second) {paths : KnownPaths}
    {one : Stack} (built : first.build paths = .ok one) :
    ∃ two, second.build paths = .ok two ∧ one.SameEntities two := by
  obtain ⟨name, start, base, named, created, settings, describes⟩ := build_eq_ok.mp built
  obtain ⟨two, described, same⟩ := describes.rearranged rearranged
  rw [← rearranged.name] at named
  rw [← rearranged.applySettings_eq] at settings
  exact ⟨two, build_eq_ok.mpr ⟨name, start, base, named, created, settings, described⟩, same⟩

end Order

end StackDefinition

/-- **The order of declarations does not matter.** If the services, networks, volumes, secrets and
configs of a definition are rearranged, each kind among itself, the definition is built under the
same files or not, and into a stack with the same entity under every name and the same main service,
in whatever order services refer to each other. -/
theorem build_rearranged {first second : StackDefinition} (rearranged : first.Rearranged second)
    (paths : KnownPaths) :
    ((∃ one, first.build paths = .ok one) ↔ ∃ two, second.build paths = .ok two) ∧
      ∀ one two, first.build paths = .ok one → second.build paths = .ok two →
        one.SameEntities two := by
  refine ⟨⟨?forth, ?back⟩, ?same⟩
  case forth =>
    rintro ⟨one, built⟩
    obtain ⟨two, other, _⟩ := StackDefinition.build_of_rearranged rearranged built
    exact ⟨two, other⟩
  case back =>
    rintro ⟨two, built⟩
    obtain ⟨one, other, _⟩ := StackDefinition.build_of_rearranged rearranged.symm built
    exact ⟨one, other⟩
  case same =>
    intro one two built other
    obtain ⟨_, again, same⟩ := StackDefinition.build_of_rearranged rearranged built
    cases Except.ok.inj (other.symm.trans again)
    exact same

/-- A definition whose two services refer to each other: one waits for the other, which is in the
network of the first. -/
def StackDefinition.circular : StackDefinition where
  name := some "shop"
  environment := .empty
  envFiles := []
  services := .ofList [
    ("web", { Service.Spec.ofImage "nginx" with
      isMain := true
      dependsOn := [⟨"db", some "service_started"⟩] }),
    ("db", { Service.Spec.ofImage "postgres" with networkMode := some "service:web" })]
  networks := .empty
  volumes := .empty
  secrets := .ofList [("key", ⟨some "key.txt", none⟩), ("token", ⟨none, some true⟩)]
  configs := .empty

/-- The entries of a map from the last one to the first. -/
def OrderedMap.reverse {α : Type} (entriesMap : OrderedMap α) : OrderedMap α :=
  ⟨entriesMap.entries.reverse, by
    rw [List.map_reverse, (List.reverse_perm _).nodup_iff]
    exact entriesMap.nodup_keys⟩

/-- The definition that declares everything in the opposite order. -/
def StackDefinition.reverse (definition : StackDefinition) : StackDefinition :=
  { definition with
    services := definition.services.reverse
    networks := definition.networks.reverse
    volumes := definition.volumes.reverse
    secrets := definition.secrets.reverse
    configs := definition.configs.reverse }

theorem StackDefinition.rearranged_reverse (definition : StackDefinition) :
    definition.Rearranged definition.reverse where
  name := rfl
  environment := rfl
  envFiles := rfl
  services := (List.reverse_perm _).symm
  networks := (List.reverse_perm _).symm
  volumes := (List.reverse_perm _).symm
  secrets := (List.reverse_perm _).symm
  configs := (List.reverse_perm _).symm

theorem build_rearranged_circular :
    StackDefinition.circular.Rearranged StackDefinition.circular.reverse ∧
      ∃ one two, StackDefinition.circular.build .everything = .ok one ∧
        StackDefinition.circular.reverse.build .everything = .ok two ∧
        one.services.names = ["web", "db"] ∧ two.services.names = ["db", "web"] ∧
        one.SameEntities two := by
  have rearranged := StackDefinition.circular.rearranged_reverse
  have forwards : (StackDefinition.circular.build .everything).toOption.map
      (fun stack => stack.services.names) = some ["web", "db"] := by decide +kernel
  have backwards : (StackDefinition.circular.reverse.build .everything).toOption.map
      (fun stack => stack.services.names) = some ["db", "web"] := by decide +kernel
  obtain ⟨_, same⟩ := build_rearranged rearranged .everything
  cases built : StackDefinition.circular.build .everything with
  | error fault =>
    rw [built] at forwards
    cases forwards
  | ok one =>
    cases other : StackDefinition.circular.reverse.build .everything with
    | error fault =>
      rw [other] at backwards
      cases backwards
    | ok two =>
      rw [built] at forwards
      rw [other] at backwards
      exact ⟨rearranged, one, two, rfl, rfl, Option.some.inj forwards, Option.some.inj backwards,
        same one two built other⟩

end ContainerStack
