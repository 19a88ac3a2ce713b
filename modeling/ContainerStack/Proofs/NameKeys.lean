import ContainerStack.Proofs.ManifestReading
import ContainerStack.Proofs.Outline

/-!
**The keys that stand for names.**

In a manifest the name of an entity is a key of its section, and the names of the services that a
service waits for are keys as soon as a condition is set. The manifest writes all of them as they
are, without quotes, so a name that has the form of a number or of a reserved word is taken for one.

* `Manifest.nameKeys`: the keys of a text that stand for names, as they are written.
* `Stack.writtenNames`: the names that a stack writes, in order.
* `nameKeys_plain`: the keys are these names, without quotes; which of them are strings.
* `nameKeys_number`: a name that is read as a number.
-/

namespace ContainerStack

open Yaml
open Yaml.Reading
open Yaml.Outline

namespace Manifest

/-! ### Keys of names -/

/-- The key of a name: it stands under a section, or under the dependencies of a service. -/
def nameOf? : List Mark → Option Key
  | [.key name, .key _] => some name
  | [.key name, .key field, .key _, .key part] =>
    if field.text = "depends_on" ∧ part.text = "services" then some name else none
  | _ => none

/-- The keys of a text that stand for names, in order. -/
def nameKeys (text : String) : List Key := (paths text).filterMap nameOf?

theorem filterMap_nameOf?_cons (path : List Mark) (deeper : List (List Mark)) :
    (path :: deeper).filterMap nameOf? = (nameOf? path).toList ++ deeper.filterMap nameOf? := by
  cases named : nameOf? path with
  | none => rw [List.filterMap_cons_none named]; rfl
  | some key => rw [List.filterMap_cons_some named]; rfl

/-- The keys of names among marks that stand under others. -/
def namesUnder (above marks : List Marked) : List Key := (pathsFrom above marks).filterMap nameOf?

/-- The mark of a section. -/
def sectionMark (name : String) : Marked := (2 * 0, .key (.plain name))

/-- The marks above the fields of a service. -/
def serviceMarks (name : String) : List Marked :=
  [(2 * 1, .key (.plain name)), sectionMark "services"]

/-- The marks above the dependencies of a service. -/
def dependencyMarks (name : String) : List Marked :=
  (2 * 2, .key (.plain "depends_on")) :: serviceMarks name

/-- The steps begin with marks of their own, and the keys of names that they write are some names as
they are. -/
structure Names (above : List Marked) (depth : Nat) (steps : List Step) (names : List String) :
    Prop where
  headed : ∀ step ∈ steps, ∃ mark, Headed depth mark step
  names : (steps.flatMap fun step => namesUnder above (marks depth step)) = names.map .plain

namespace Names

variable {depth : Nat} {above : List Marked} {first second steps : List Step}
  {found others : List String}

/-- **Steps that are written one after another** hold the names of each. -/
theorem all (each : Names above depth steps found) (written : WrittenAll depth steps)
    (outer : ∀ mark ∈ above, mark.1 < 2 * depth) :
    namesUnder above (marksAll depth steps) = found.map .plain := by
  rw [namesUnder, pathsFrom_steps each.headed written outer, List.filterMap_flatMap, ← each.names]
  rfl

theorem nil : Names above depth [] [] := ⟨nofun, rfl⟩

theorem append (one : Names above depth first found) (two : Names above depth second others) :
    Names above depth (first ++ second) (found ++ others) := by
  constructor
  · intro step member
    exact (List.mem_append.mp member).elim (one.headed step) (two.headed step)
  · rw [List.flatMap_append, one.names, two.names, List.map_append]

/-- One step for each element. -/
theorem map {α : Type} {elements : List α} {write : α → Step} {names : α → List String}
    (each : ∀ element ∈ elements, Names above depth [write element] (names element)) :
    Names above depth (elements.map write) (elements.flatMap names) := by
  induction elements with
  | nil => exact nil
  | cons element rest ih =>
    have later := ih fun other member => each other (List.mem_cons_of_mem element member)
    exact (each element List.mem_cons_self).append later

/-- The same where each step is related to its element. -/
theorem forall₂ {α : Type} {elements : List α} {relation : α → Step → Prop}
    {names : α → List String} (written : WrittenAll depth steps)
    (each : ∀ element ∈ elements, ∀ step, relation element step → WrittenAll depth [step] →
      Names above depth [step] (names element))
    (related : List.Forall₂ relation elements steps) :
    Names above depth steps (elements.flatMap names) := by
  induction related with
  | nil => exact nil
  | @cons element step rest others here _ ih =>
    obtain ⟨alone, after⟩ := written.of_cons
    have later := ih after fun other member => each other (List.mem_cons_of_mem element member)
    exact (each element List.mem_cons_self step here alone).append later

/-- **A step under whose mark nothing stands for a name** holds at most the name of its mark. -/
theorem of_headed {mark : Mark} {step : Step} (headed : Headed depth mark step)
    (outer : ∀ mark ∈ above, mark.1 < 2 * depth)
    (silent : ∀ own others, nameOf? (own :: others ++ mark :: above.map Prod.snd) = none)
    (own : (nameOf? (mark :: above.map Prod.snd)).toList = found.map .plain) :
    Names above depth [step] found := by
  obtain ⟨deeper, same, under⟩ := headed.paths outer
  have nothing : deeper.filterMap nameOf? = [] := by
    rw [List.filterMap_eq_nil_iff]
    intro path member
    obtain ⟨own, others, rfl⟩ := under path member
    exact silent own others
  refine ⟨fun other member => ⟨mark, List.mem_singleton.mp member ▸ headed⟩, ?_⟩
  rw [List.flatMap_singleton, namesUnder, same, filterMap_nameOf?_cons, nothing, own,
    List.append_nil]

/-- **A block** holds the name of its key, if that is one, and those of its body. -/
theorem block (found : List String) {name : String} {body : List Step} (plain : Plain name.toList)
    (written : WrittenAll depth [.block name body])
    (outer : ∀ mark ∈ above, mark.1 < 2 * depth)
    (own : (nameOf? (.key (.plain name) :: above.map Prod.snd)).toList = found.map .plain)
    (inner : Names ((2 * depth, .key (.plain name)) :: above) (depth + 1) body others) :
    Names above depth [.block name body] (found ++ others) := by
  have headed : Headed depth (.key (.plain name)) (.block name body) :=
    headed_of_key rfl plain written
  have further : ∀ mark ∈ (2 * depth, Mark.key (.plain name)) :: above,
      mark.1 < 2 * (depth + 1) := by
    intro mark member
    rcases List.mem_cons.mp member with rfl | listed
    · exact Nat.mul_lt_mul_of_pos_left (Nat.lt_succ_self depth) (by decide)
    · have less := outer mark listed
      omega
  have below := inner.all written.body further
  refine ⟨fun other member => ⟨_, List.mem_singleton.mp member ▸ headed⟩, ?_⟩
  rw [List.flatMap_singleton, namesUnder, pathsFrom_headed (marks_block plain body) outer,
    filterMap_nameOf?_cons, own, List.map_append, ← below]
  rfl

section Blocks

variable {name : String} {body : List Step} (plain : Plain name.toList)
  (written : WrittenAll depth [.block name body])
  (outer : ∀ mark ∈ above, mark.1 < 2 * depth)
  (inner : Names ((2 * depth, .key (.plain name)) :: above) (depth + 1) body others)

include plain written outer inner

/-- A block whose key is no name. -/
theorem blockOfKey (noName : nameOf? (.key (.plain name) :: above.map Prod.snd) = none) :
    Names above depth [.block name body] others :=
  block [] plain written outer (congrArg Option.toList noName) inner

/-- A block whose key is a name. -/
theorem blockOfName
    (isName : nameOf? (.key (.plain name) :: above.map Prod.snd) = some (.plain name)) :
    Names above depth [.block name body] (name :: others) :=
  block [name] plain written outer (congrArg Option.toList isName) inner

end Blocks

end Names

/-! ### Where names stand -/

/-- Names stand at two depths only. -/
theorem nameOf?_eq_none {path : List Mark} (notTwo : path.length ≠ 2) (notFour : path.length ≠ 4) :
    nameOf? path = none := by
  unfold nameOf?
  split
  · exact absurd rfl notTwo
  · exact absurd rfl notFour
  · rfl

/-- Only among services do names stand deeper than under the section. -/
theorem nameOf?_section {key : Key} (differs : key.text ≠ "services") (entity own : Mark)
    (others : List Mark) : nameOf? (own :: others ++ [entity, .key key]) = none := by
  by_cases single : others.length = 1
  · obtain ⟨other, rfl⟩ := List.length_eq_one_iff.mp single
    show nameOf? [own, other, entity, .key key] = none
    unfold nameOf?
    split <;> simp_all
  · exact nameOf?_eq_none (by simp) (by simpa using single)

/-- Among the fields of a service, names stand under the dependencies only. -/
theorem nameOf?_field {key : Key} (differs : key.text ≠ "depends_on") (own others : List Mark)
    (twoAbove : others.length = 2) : nameOf? (own ++ .key key :: others) = none := by
  obtain ⟨service, part, rfl⟩ := List.length_eq_two.mp twoAbove
  by_cases single : own.length = 1
  · obtain ⟨other, rfl⟩ := List.length_eq_one_iff.mp single
    show nameOf? [other, .key key, service, part] = none
    unfold nameOf?
    split <;> simp_all
  · exact nameOf?_eq_none (by simp) (by simpa using single)

/-- Under the dependencies, names stand at one depth only. -/
theorem nameOf?_deeper (own mark : Mark) (others above : List Mark)
    (threeAbove : above.length = 3) : nameOf? (own :: others ++ mark :: above) = none :=
  nameOf?_eq_none (by simp; omega) (by simp; omega)

theorem outer_section (name : String) : ∀ mark ∈ [sectionMark name], mark.1 < 2 * 1 := by
  simp [sectionMark]

theorem outer_serviceMarks (name : String) : ∀ mark ∈ serviceMarks name, mark.1 < 2 * 2 := by
  simp [serviceMarks, sectionMark]

theorem outer_dependencyMarks (name : String) :
    ∀ mark ∈ dependencyMarks name, mark.1 < 2 * 3 := by
  simp [dependencyMarks, serviceMarks, sectionMark]

/-- **A section of other entities than services** holds the names of its entities. -/
theorem names_section {α : Type} {key : String} (plain : Plain key.toList)
    (differs : key ≠ "services") {entities : List α} {write : α → Step} {name : α → String}
    (keyed : ∀ entity ∈ entities, key? (write entity) = some (name entity))
    (named : ∀ entity ∈ entities, isEntityName (name entity) = true)
    (written : WrittenAll 0 (Step.blockUnlessEmpty key (entities.map write))) :
    Names [] 0 (Step.blockUnlessEmpty key (entities.map write)) (entities.map name) := by
  unfold Step.blockUnlessEmpty at written ⊢
  split
  · rename_i empty
    rw [List.isEmpty_map, List.isEmpty_iff] at empty
    rw [empty]
    exact .nil
  rename_i full
  rw [if_neg full] at written
  refine .blockOfKey plain written (List.forall_mem_nil _) ?_ rfl
  have names : entities.map name = entities.flatMap fun entity => [name entity] :=
    List.map_eq_flatMap
  rw [names]
  refine .map fun entity member => ?_
  have headed := headed_of_key (keyed entity member) (plain_of_isEntityName (named entity member))
    (written.body.of_mem (List.mem_map_of_mem member))
  exact .of_headed headed (outer_section key) (nameOf?_section differs _) rfl

/-! ### Fields of a service -/

/-- The names of the services that a service waits for, as far as they are keys: as soon as a
condition is set. -/
def conditionNames (dependsOn : OrderedMap (Option DependencyCondition)) : List String :=
  if dependsOn.values.any Option.isSome then dependsOn.keys else []

/-- **Under the dependencies** stand the names of those with conditions, or none at all. -/
theorem names_dependencies (service : String)
    {dependsOn : OrderedMap (Option DependencyCondition)}
    (named : ∀ name ∈ dependsOn.keys, isEntityName name = true) :
    Names (serviceMarks service) 2 (dependencySteps dependsOn) (conditionNames dependsOn) := by
  have written : WrittenAll 2 (dependencySteps dependsOn) :=
    .of_reads (writes_dependencies named).reads
  unfold dependencySteps at written ⊢
  unfold conditionNames
  split
  · rename_i conditional
    rw [if_pos conditional] at written
    refine .blockOfKey (by decide) written (outer_serviceMarks service) ?_ rfl
    have names : dependsOn.keys = dependsOn.toList.flatMap fun entry => [entry.1] :=
      List.map_eq_flatMap
    rw [names]
    refine .map fun entry member => ?_
    have plain := plain_of_isEntityName (named entry.1 (List.mem_map_of_mem member))
    have headed := headed_of_key rfl plain (written.body.of_mem (List.mem_map_of_mem member))
    exact .of_headed headed (outer_dependencyMarks service)
      (fun own others => nameOf?_deeper _ _ _ _ rfl) rfl
  · rename_i unconditional
    rw [if_neg unconditional] at written
    unfold Step.itemsBlock at written ⊢
    split
    · exact .nil
    rename_i full
    rw [if_neg full] at written
    refine .blockOfKey (by decide) written (outer_serviceMarks service) ?_ rfl
    have nothing : [] = dependsOn.keys.flatMap fun _ => ([] : List String) :=
      (List.flatMap_eq_nil_iff.mpr fun _ _ => rfl).symm
    rw [nothing]
    refine .map fun name _ => ?_
    exact .of_headed (headed_item name) (outer_dependencyMarks service)
      (fun own others => nameOf?_deeper _ _ _ _ rfl) rfl

/-- The keys of the fields of a service, its dependencies left out. -/
def fieldKeys : List String :=
  ["image", "build", "user", "entrypoint", "command", "restart", "environment", "env_file", "ports",
    "expose", "volumes", "networks", "network_mode", "external_links", "secrets", "configs",
    "healthcheck", "logging", "deploy", "security_opt"]

theorem fieldKeys_plain :
    ∀ key ∈ fieldKeys, Plain key.toList ∧ key ≠ "depends_on" := by
  decide +kernel

/-- The steps write fields of a service other than its dependencies. -/
def WriteFields (steps : List Step) : Prop :=
  ∀ step ∈ steps, ∃ key ∈ fieldKeys, key? step = some key

namespace WriteFields

variable {first second : List Step} {key : String}

theorem nil : WriteFields [] := nofun

theorem append (one : WriteFields first) (two : WriteFields second) :
    WriteFields (first ++ second) := fun step member =>
  (List.mem_append.mp member).elim (one step) (two step)

section Keys

variable (key)

theorem single {step : Step} (listed : key ∈ fieldKeys) (keyed : key? step = some key) :
    WriteFields [step] := by
  intro other member
  cases List.mem_singleton.mp member
  exact ⟨key, listed, keyed⟩

theorem scalarIfSome (listed : key ∈ fieldKeys) (value : Option String) :
    WriteFields (Step.scalarIfSome key value) := by
  cases value with
  | none => exact nil
  | some text => exact single key listed rfl

theorem quotedIfSome (listed : key ∈ fieldKeys) (value : Option String) :
    WriteFields (Step.quotedIfSome key value) := by
  cases value with
  | none => exact nil
  | some text => exact single key listed rfl

theorem blockIfSome {α : Type} (listed : key ∈ fieldKeys) (body : α → List Step)
    (value : Option α) : WriteFields (Step.blockIfSome key body value) := by
  cases value with
  | none => exact nil
  | some given => exact single key listed rfl

/-- A step that is left out where there is nothing to write. -/
theorem unlessEmpty {step : Step} (listed : key ∈ fieldKeys) (keyed : key? step = some key)
    (isEmpty : Bool) : WriteFields (if isEmpty then [] else [step]) := by
  split
  · exact nil
  · exact single key listed keyed

theorem blockUnlessEmpty (listed : key ∈ fieldKeys) (body : List Step) :
    WriteFields (Step.blockUnlessEmpty key body) := unlessEmpty key listed rfl _

theorem itemsBlock (listed : key ∈ fieldKeys) (items : List String) :
    WriteFields (Step.itemsBlock key items) := unlessEmpty key listed rfl _

theorem mapBlock (listed : key ∈ fieldKeys) (entries : List (String × String)) :
    WriteFields (Step.mapBlock key entries) := unlessEmpty key listed rfl _

end Keys

end WriteFields

theorem fields_source {service : Service} {steps : List Step}
    (made : sourceSteps service = .ok steps) : WriteFields steps := by
  unfold sourceSteps at made
  split at made
  · cases made
    exact .single "image" (by decide) rfl
  · cases made
    unfold buildSteps
    split
    · exact .single "build" (by decide) rfl
    · exact .single "build" (by decide) rfl
  · cases made

theorem fields_command (key : String) (listed : key ∈ fieldKeys) (command : Option Command) :
    WriteFields (commandSteps key command) := by
  unfold commandSteps
  split
  · exact .single key listed rfl
  · exact .single key listed rfl
  · exact .nil

theorem fields_restart (restart : Option RestartPolicy) : WriteFields (restartSteps restart) := by
  unfold restartSteps
  split
  · exact .single "restart" (by decide) rfl
  · exact .single "restart" (by decide) rfl
  · exact .nil

theorem fields_ports (ports : List PortMapping) : WriteFields (portSteps ports) :=
  .append (.blockUnlessEmpty "ports" (by decide) _) (.blockUnlessEmpty "expose" (by decide) _)

theorem fields_mounts {stack : Stack} {service : Service} {steps : List Step}
    (made : mountSteps stack service = .ok steps) : WriteFields steps := by
  obtain ⟨lines, _, same⟩ := Edit.bind_eq_ok.mp made
  cases same
  exact .itemsBlock "volumes" (by decide) lines

theorem fields_networks (service : Service) : WriteFields (networkSteps service) := by
  unfold networkSteps
  split
  · exact .scalarIfSome "network_mode" (by decide) _
  · exact .itemsBlock "networks" (by decide) _

theorem fields_healthcheck (check : Option Healthcheck) : WriteFields (healthcheckSteps check) :=
  .blockIfSome "healthcheck" (by decide) healthcheckBody check

theorem fields_logging (logging : Option Logging) : WriteFields (loggingSteps logging) := by
  cases logging with
  | none => exact .nil
  | some logging => exact .single "logging" (by decide) rfl

theorem fields_deploy (deploy : Option Deployment) : WriteFields (deploySteps deploy) :=
  .blockIfSome "deploy" (by decide) deployBody _

/-- **A service is its name above its fields**, its dependencies among them. -/
theorem serviceSteps_eq_ok {stack : Stack} {service : Service} {step : Step}
    (made : serviceSteps stack service = .ok step) :
    ∃ before after, WriteFields before ∧ WriteFields after ∧
      step = .block service.name (before ++ dependencySteps service.dependsOn ++ after) := by
  obtain ⟨source, sourced, made⟩ := Edit.bind_eq_ok.mp made
  obtain ⟨mounts, mounted, same⟩ := Edit.bind_eq_ok.mp made
  have before := fields_source sourced
    |>.append (.quotedIfSome "user" (by decide) service.user)
    |>.append (fields_command "entrypoint" (by decide) service.entrypoint)
    |>.append (fields_command "command" (by decide) service.command)
    |>.append (fields_restart service.restart)
  have after := WriteFields.mapBlock "environment" (by decide)
      (mergedEnvironment stack service).toList
    |>.append (.itemsBlock "env_file" (by decide) (mergedEnvFiles stack service))
    |>.append (fields_ports service.ports)
    |>.append (fields_mounts mounted)
    |>.append (fields_networks service)
    |>.append (.itemsBlock "external_links" (by decide) service.externalLinks)
    |>.append (.itemsBlock "secrets" (by decide) service.secrets)
    |>.append (.blockUnlessEmpty "configs" (by decide) (service.configs.map configSteps))
    |>.append (fields_healthcheck service.healthcheck)
    |>.append (fields_logging service.logging)
    |>.append (fields_deploy service.deploy)
    |>.append (.itemsBlock "security_opt" (by decide) service.securityOptions)
  refine ⟨_, _, before, after, ?_⟩
  cases same
  simp only [List.append_assoc]

/-- Steps of other fields hold no names. -/
theorem names_fields (service : String) {steps : List Step} (fields : WriteFields steps)
    (written : WrittenAll 2 steps) : Names (serviceMarks service) 2 steps [] := by
  induction steps with
  | nil => exact .nil
  | cons step rest ih =>
    obtain ⟨alone, others⟩ := written.of_cons
    obtain ⟨key, listed, keyed⟩ := fields step List.mem_cons_self
    obtain ⟨plain, differs⟩ := fieldKeys_plain key listed
    have first : Names (serviceMarks service) 2 [step] [] :=
      .of_headed (headed_of_key keyed plain alone) (outer_serviceMarks service)
        (fun own others => nameOf?_field differs (own :: others) _ rfl)
        (congrArg Option.toList (nameOf?_field differs [] _ rfl))
    exact first.append (ih (fun other member => fields other (List.mem_cons_of_mem step member))
      others)

end Manifest

/-! ### All names -/

/-- The names that a service writes as keys: its own, and those of the services that it waits for
on conditions. -/
def Service.writtenNames (service : Service) : List String :=
  service.name :: Manifest.conditionNames service.dependsOn

/-- The names that a stack writes as keys. -/
def Stack.writtenNames (stack : Stack) : List String :=
  stack.renderOrder.flatMap Service.writtenNames ++
    (stack.volumes.toList.map Volume.name ++ stack.networks.toList.map Network.name ++
      stack.secrets.toList.map Secret.name ++ stack.configs.toList.map ConfigFile.name)

namespace Manifest

variable {stack : Stack}

/-- **A service** holds its own name, and the names of those that it waits for on conditions. -/
theorem names_service (sound : stack.Sound) {service : Service}
    (registered : service ∈ stack.services.toList) {step : Step}
    (made : serviceSteps stack service = .ok step) (written : WrittenAll 1 [step]) :
    Names [sectionMark "services"] 1 [step] service.writtenNames := by
  have named := (sound.services.of_mem registered).1.coherent.named
  obtain ⟨before, after, first, last, rfl⟩ := serviceSteps_eq_ok made
  obtain ⟨earlier, later⟩ := written.body.of_append
  obtain ⟨begun, _⟩ := earlier.of_append
  have body := names_fields service.name first begun
    |>.append (names_dependencies service.name (dependencies_named sound registered))
    |>.append (names_fields service.name last later)
  rw [List.nil_append, List.append_nil] at body
  exact .blockOfName (plain_of_isEntityName named) written (outer_section "services") body rfl

theorem key?_volume (volume : Volume) : key? (volumeSteps volume) = some volume.name := by
  unfold volumeSteps
  split <;> rfl

/-- **The steps of a sound stack** hold the names that it writes. -/
theorem names_steps (sound : stack.Sound) {written : List Step} (made : steps stack = .ok written)
    (all : WrittenAll 0 written) : Names [] 0 written stack.writtenNames := by
  unfold steps at made
  split at made
  · cases made
  obtain ⟨services, served, same⟩ := Edit.bind_eq_ok.mp made
  cases same
  obtain ⟨first, others⟩ := all.of_cons
  obtain ⟨others, configs⟩ := others.of_append
  obtain ⟨others, secrets⟩ := others.of_append
  obtain ⟨volumes, networks⟩ := others.of_append
  have each : Names [sectionMark "services"] 1 services
      (stack.renderOrder.flatMap Service.writtenNames) :=
    .forall₂ first.body (fun service listed _ made alone =>
      names_service sound (sound.mem_renderOrder.mp listed) made alone) (Edit.mapM_eq_ok.mp served)
  have section' : Names [] 0 [.block "services" services]
      (stack.renderOrder.flatMap Service.writtenNames) :=
    .blockOfKey (by decide) first (List.forall_mem_nil _) each rfl
  refine section'.append ?_
  exact names_section (by decide) (by decide) (fun volume _ => key?_volume volume)
      (fun _ listed => (sound.volumes.of_mem listed).named) volumes
    |>.append (names_section (by decide) (by decide) (fun _ _ => rfl)
      (fun _ listed => (sound.networks.of_mem listed).named) networks)
    |>.append (names_section (by decide) (by decide) (fun _ _ => rfl)
      (fun _ listed => sound.secrets.of_mem listed) secrets)
    |>.append (names_section (by decide) (by decide) (fun _ _ => rfl)
      (fun _ listed => sound.configs.of_mem listed) configs)

/-- **The keys of names in the text of a sound stack** are the names that it writes, as they are. -/
theorem nameKeys_text (sound : stack.Sound) {text : String}
    (rendered : Manifest.text stack = .ok text) :
    nameKeys text = stack.writtenNames.map .plain := by
  obtain ⟨written, made, rendered⟩ := Edit.bind_eq_ok.mp rendered
  obtain ⟨parts, reads, _⟩ := reads_steps sound made
  have all : WrittenAll 0 written := .of_reads reads
  rw [Step.render_layout all.nested, all.succeeds] at rendered
  cases rendered
  rw [← (names_steps sound made all).all all nofun, nameKeys,
    paths_layout _ (reads.readAs.whole 0)]
  rfl

end Manifest

/-- **Names are written without quotes.** In every manifest that is rendered after a run of
operations, the keys that stand for names are the names of all entities, and of the services that
are waited for on conditions, each as it is. All of them are read as strings exactly if none of the
names has the form of something else, and a name that begins with a letter has such a form only if
it is reserved. -/
theorem nameKeys_plain {stack : Stack} (reached : stack.Reached) {text : String}
    (rendered : (Stack.renderManifest.apply stack).1 = .ok text) :
    Manifest.nameKeys text = stack.writtenNames.map .plain ∧
      ((∀ key ∈ Manifest.nameKeys text, key.kind = .string) ↔
        ∀ name ∈ stack.writtenNames, Core.kind name = .string) ∧
      ∀ key ∈ Manifest.nameKeys text, key.text.toList.head?.any isLetter = true →
        key.text ∉ Core.reservedWords → key.kind = .string := by
  have sound := reached.sound
  rw [Stack.renderManifest_apply, if_neg (by rw [sound.idle]; nofun)] at rendered
  have names := Manifest.nameKeys_text sound rendered
  refine ⟨names, ?strings, ?letters⟩
  case strings =>
    rw [names, List.forall_mem_map]
    exact Iff.rfl
  case letters =>
    rw [names, List.forall_mem_map]
    exact fun name _ letter free => Core.kind_of_letter letter free

/-- A run that registers a volume and two services, one of which waits for the other. -/
def Stack.waitingRun {first second : Service} {name : String}
    (firstCreated : Service.create name = .ok first)
    (secondCreated : Service.create "web" = .ok second)
    (condition : Option DependencyCondition) : List Stack.Operation :=
  [.createVolume "data" ⟨none, .empty, none, .empty, none, none, false, none⟩,
    .addService _ (Service.assembled_built firstCreated .everything [.image "nginx"]),
    .addService _ (Service.assembled_built secondCreated .everything
      [.image "nginx", .dependency name condition])]

theorem nameKeys_plain_waitingRun :
    ∃ start first second, ∃ (firstCreated : Service.create "db" = .ok first)
      (secondCreated : Service.create "web" = .ok second),
      Stack.create "shop" .everything = .ok start ∧
      let left := start.run (Stack.waitingRun firstCreated secondCreated (some .healthy))
      let text := String.join (["services:", "  db:", "    image: nginx", "  web:",
        "    image: nginx", "    depends_on:", "      db:", "        condition: service_healthy",
        "volumes:", "  data:"].map (· ++ "\n"))
      (Stack.renderManifest.apply left).1 = .ok text ∧
      left.writtenNames = ["db", "web", "db", "data"] ∧
      Manifest.nameKeys text = ["db", "web", "db", "data"].map .plain ∧
      ∀ key ∈ Manifest.nameKeys text, key.kind = .string := by
  have created : Stack.create "shop" .everything = .ok _ := rfl
  have reached : Stack.Reached _ :=
    ⟨_, _, _, @Stack.waitingRun _ _ "db" rfl rfl (some .healthy), created, rfl⟩
  refine ⟨_, _, _, rfl, rfl, created, ?rendered, ?names, ?keys⟩
  case rendered => rfl
  case names => rfl
  case keys =>
    obtain ⟨keys, strings, _⟩ := nameKeys_plain reached rfl
    exact ⟨keys, strings.mpr (by decide +kernel)⟩

/-- **A name may be read as a number.** A service is called by digits alone; where it is waited for,
its name stands between quotes, but its own key does not and is a whole number. -/
theorem nameKeys_number :
    ∃ start first second, ∃ (firstCreated : Service.create "8080" = .ok first)
      (secondCreated : Service.create "web" = .ok second),
      Stack.create "shop" .everything = .ok start ∧
      let left := start.run (Stack.waitingRun firstCreated secondCreated none)
      let text := String.join (["services:", "  8080:", "    image: nginx", "  web:",
        "    image: nginx", "    depends_on:", "      - \"8080\"", "volumes:", "  data:"].map
          (· ++ "\n"))
      (Stack.renderManifest.apply left).1 = .ok text ∧
      ∃ key ∈ Manifest.nameKeys text, key.text = "8080" ∧ key.kind = .integer := by
  refine ⟨_, _, _, rfl, rfl, rfl, rfl, ?_⟩
  exact ⟨.plain "8080", by decide +kernel, rfl, by decide +kernel⟩

end ContainerStack
