import ContainerStack.Proofs.Passes

/-!
**Building the stack of a document.**

* `StackDefinition.Describes`: the stack has, under every name of the definition and nowhere else,
  what the entry of that name makes on its own.
* `StackDefinition.build_eq_ok`: a definition is built exactly into the stacks that it describes.
* `build_eq_replay`: where services refer only to services before them, building is the same as
  creating every entity with all its references, in document order.
-/

namespace ContainerStack

namespace StackDefinition

open Edit

/-! ### What a definition declares -/

/-- Everything that a definition declares, beside the files that are there. -/
def lookup (definition : StackDefinition) (paths : KnownPaths) : EntityLookup where
  hasService := definition.services.contains
  hasNetwork := definition.networks.contains
  hasVolume := definition.volumes.contains
  hasSecret := definition.secrets.contains
  hasConfig := definition.configs.contains
  pathExists := paths.knows

/-- The stack has no entities. -/
structure Empty (stack : Stack) : Prop where
  services : stack.services = .empty
  networks : stack.networks = .empty
  volumes : stack.volumes = .empty
  secrets : stack.secrets = .empty
  configs : stack.configs = .empty
  main : stack.mainService = none

/-- Networks, volumes, secrets and configs are what the entries of a definition make. -/
structure HasOthers (definition : StackDefinition) (stack : Stack) : Prop where
  networks : stack.networks.MadeOf Network.ofSpec definition.networks
  volumes : stack.volumes.MadeOf Volume.ofSpec definition.volumes
  secrets : stack.secrets.MadeOf
    (fun name spec => Secret.ofSpec name spec (definition.lookup stack.paths)) definition.secrets
  configs : stack.configs.MadeOf
    (fun name spec => ConfigFile.ofSpec name spec (definition.lookup stack.paths))
    definition.configs

/-- **What a definition makes of a stack without entities**: under every name of the definition, and
nowhere else, what the entry of that name makes on its own when everything is there that the
definition declares; and the one entry that asks for it, if there is one, is the main service. -/
structure Describes (definition : StackDefinition) (base stack : Stack) : Prop
    extends definition.HasOthers stack where
  services : stack.services.MadeOf
    (fun name spec => Service.ofSpec name spec (definition.lookup stack.paths)) definition.services
  main : Stack.mains definition.services.entries = stack.mainService.toList
  beside : stack = { base with
    networks := stack.networks
    volumes := stack.volumes
    secrets := stack.secrets
    configs := stack.configs
    services := stack.services
    mainService := stack.mainService }

/-- Creates everything but services. -/
def createOthers (definition : StackDefinition) : Edit Stack Unit := do
  definition.networks.toList.forM fun (name, spec) => Stack.createNetwork name spec
  definition.volumes.toList.forM fun (name, spec) => Stack.createVolume name spec
  definition.secrets.toList.forM fun (name, spec) => Stack.createSecret name spec
  definition.configs.toList.forM fun (name, spec) => Stack.createConfig name spec

section Entities

variable {definition : StackDefinition} {base after : Stack}

theorem createOthers_accepts (empty : Empty base) :
    definition.createOthers.Accepts base after ↔ definition.HasOthers after ∧
      after = { base with
        networks := after.networks
        volumes := after.volumes
        secrets := after.secrets
        configs := after.configs } := by
  constructor
  · intro accepted
    obtain ⟨_, first, accepted⟩ := accepts_bind.mp accepted
    obtain ⟨networks, madeNetworks, rfl⟩ := (Shelf.networks.fill_accepts empty.networks).mp first
    obtain ⟨_, second, accepted⟩ := accepts_bind.mp accepted
    obtain ⟨volumes, madeVolumes, rfl⟩ :=
      (Shelf.volumes.fill_accepts (by exact empty.volumes)).mp second
    obtain ⟨_, third, accepted⟩ := accepts_bind.mp accepted
    obtain ⟨secrets, madeSecrets, rfl⟩ :=
      (Shelf.secrets.fill_accepts (by exact empty.secrets)).mp third
    obtain ⟨configs, madeConfigs, rfl⟩ :=
      (Shelf.configs.fill_accepts (by exact empty.configs)).mp accepted
    exact ⟨⟨madeNetworks, madeVolumes, madeSecrets, madeConfigs⟩, rfl⟩
  · rintro ⟨⟨madeNetworks, madeVolumes, madeSecrets, madeConfigs⟩, beside⟩
    have paths : after.paths = base.paths := by rw [beside]
    rw [paths] at madeSecrets madeConfigs
    refine accepts_bind.mpr ⟨_, (Shelf.networks.fill_accepts empty.networks).mpr
      ⟨_, madeNetworks, rfl⟩, ?_⟩
    refine accepts_bind.mpr ⟨_, (Shelf.volumes.fill_accepts (by exact empty.volumes)).mpr
      ⟨_, madeVolumes, rfl⟩, ?_⟩
    refine accepts_bind.mpr ⟨_, (Shelf.secrets.fill_accepts (by exact empty.secrets)).mpr
      ⟨_, madeSecrets, rfl⟩, ?_⟩
    exact (Shelf.configs.fill_accepts (by exact empty.configs)).mpr ⟨_, madeConfigs, beside⟩

/-- Beside its services, a stack with the other entities of a definition has what the definition
declares. -/
theorem HasOthers.lookup {stack : Stack} (others : definition.HasOthers stack) : stack.lookup =
    { definition.lookup stack.paths with hasService := stack.services.contains } := by
  unfold Stack.lookup StackDefinition.lookup
  rw [others.networks.contains_eq, others.volumes.contains_eq, others.secrets.contains_eq,
    others.configs.contains_eq]

theorem HasOthers.ready {stack : Stack} {entries : List (String × Service.Spec)}
    (others : definition.HasOthers stack) (services : stack.services = .empty)
    (main : stack.mainService = none)
    (names : entries.map Prod.fst = definition.services.keys)
    (back : Stack.RefersBack [] entries) :
    stack.Ready (definition.lookup stack.paths) entries := by
  refine ⟨others.lookup, ?distinct, ?there, ?declared, ?registered, ?back⟩
  case distinct =>
    rw [services, names]
    exact definition.services.keys_nodup
  case there =>
    intro name member
    rw [services] at member
    cases member
  case declared =>
    intro entry member
    exact OrderedMap.contains_eq_true.mpr (names ▸ List.mem_map_of_mem member)
  case registered =>
    intro name same
    rw [main] at same
    cases same
  case back =>
    rw [services]
    exact back

/-- The services of a definition are created beside its other entities. -/
def FillsServices (definition : StackDefinition) (edit : Edit Stack Unit) : Prop :=
  ∀ others : Stack, definition.HasOthers others → others.services = .empty →
    others.mainService = none → ∀ after, edit.Accepts others after ↔
      ∃ (services : Registry Service) (main : Option String),
        services.MadeOf (fun name spec =>
          Service.ofSpec name spec (definition.lookup others.paths)) definition.services ∧
        Stack.mains definition.services.entries = main.toList ∧
        after = { others with services := services, mainService := main }

/-- **Creating services beside the other entities gives what the definition describes.** -/
theorem FillsServices.describes {edit : Edit Stack Unit} (fills : definition.FillsServices edit)
    (empty : Empty base) :
    (definition.createOthers >>= fun _ => edit).Accepts base after ↔
      definition.Describes base after := by
  rw [accepts_bind]
  constructor
  · rintro ⟨others, first, second⟩
    obtain ⟨has, beside⟩ := (createOthers_accepts empty).mp first
    have noServices : others.services = .empty := by rw [beside, empty.services]
    have noMain : others.mainService = none := by rw [beside, empty.main]
    obtain ⟨services, main, made, sameMain, rfl⟩ :=
      (fills others has noServices noMain after).mp second
    exact {
      networks := has.networks
      volumes := has.volumes
      secrets := has.secrets
      configs := has.configs
      services := made
      main := sameMain
      beside := by rw [beside] }
  · intro describes
    have paths : after.paths = base.paths := by rw [describes.beside]
    have secrets := describes.secrets
    have configs := describes.configs
    have services := describes.services
    rw [paths] at secrets configs services
    have others : definition.HasOthers { base with
        networks := after.networks
        volumes := after.volumes
        secrets := after.secrets
        configs := after.configs } :=
      ⟨describes.networks, describes.volumes, secrets, configs⟩
    exact ⟨_, (createOthers_accepts empty).mpr ⟨others, rfl⟩,
      (fills _ others empty.services empty.main after).mpr
        ⟨after.services, after.mainService, services, describes.main, describes.beside⟩⟩

/-- Creates every service with all its references, in document order. -/
def createInOrder (definition : StackDefinition) : Edit Stack Unit :=
  definition.services.toList.forM fun (name, spec) => Stack.createService name spec

theorem createInOrder_fills (back : Stack.RefersBack [] definition.services.entries) :
    definition.FillsServices definition.createInOrder := by
  intro others has noServices noMain after
  have ready := has.ready noServices noMain rfl back
  refine (Stack.createServices_accepts ready).trans ?_
  rw [noServices, noMain]
  constructor
  · rintro ⟨_, services, main, made, same, sameMain, rfl⟩
    cases (List.nil_append _).symm.trans same.symm
    exact ⟨services, main, made, sameMain, rfl⟩
  · rintro ⟨services, main, made, sameMain, rfl⟩
    exact ⟨_, services, main, made, rfl, sameMain, rfl⟩

/-- Creates every service without its references to others, and then sets them. -/
def createLinked (definition : StackDefinition) : Edit Stack Unit := do
  definition.services.toList.forM fun (name, spec) => createWithoutReferences name spec
  definition.services.toList.forM fun (name, spec) => applyReferences name spec

theorem createLinked_fills : definition.FillsServices definition.createLinked := by
  intro others has noServices noMain after
  have names : (bareEntries definition.services.entries).map Prod.fst =
      definition.services.keys := by
    simp [bareEntries, OrderedMap.keys, Function.comp_def]
  have ready := has.ready noServices noMain names (refersBack_bareEntries _ [])
  have known {kept : List (String × Service)} {services : Registry Service} (main : Option String)
      (apart : List.Forall₂ (MakesApart (definition.lookup others.paths))
        definition.services.entries kept) (same : services.entries.entries = kept) :
      Stack.lookup { others with services := services, mainService := main } =
        definition.lookup others.paths := by
    have sameNames : services.contains = definition.services.contains := by
      funext name
      rw [Bool.eq_iff_iff, Registry.contains_iff, OrderedMap.contains_eq_true, Registry.names,
        OrderedMap.keys, same, names_of_forall₂ (fun _ _ makes => makes.1) apart]
      rfl
    have beside : definition.HasOthers { others with services := services, mainService := main } :=
      ⟨has.networks, has.volumes, has.secrets, has.configs⟩
    rw [beside.lookup, sameNames]
    rfl
  rw [createLinked, accepts_bind]
  constructor
  · rintro ⟨between, first, second⟩
    obtain ⟨kept, half, main, apart, same, sameMain, rfl⟩ := (createAll_accepts ready).mp first
    rw [noServices] at same
    rw [noMain] at sameMain
    obtain ⟨made, services, makes, held, rfl⟩ :=
      (linkAll_accepts apart (known main apart same) same).mp second
    cases held
    exact ⟨services, main, makes, sameMain, rfl⟩
  · rintro ⟨services, main, made, sameMain, rfl⟩
    obtain ⟨kept, apart⟩ := exists_makesApart made
    have distinct : (kept.map Prod.fst).Nodup := by
      rw [names_of_forall₂ (fun _ _ makes => makes.1) apart]
      exact definition.services.nodup_keys
    refine ⟨{ others with services := ⟨⟨kept, distinct⟩⟩, mainService := main },
      (createAll_accepts ready).mpr ⟨kept, _, main, apart, ?_, ?_, rfl⟩,
      (linkAll_accepts apart (known main apart rfl) (List.nil_append kept).symm).mpr
        ⟨_, services, made, rfl, rfl⟩⟩
    · rw [noServices]
      rfl
    · rw [noMain]
      exact sameMain

/-- All dependencies of a definition that describes a stack are declared. -/
theorem Describes.declared (describes : definition.Describes base after) :
    definition.undeclaredDependencies = [] := by
  have all : ∀ entry ∈ definition.services.entries, ∀ dependency ∈ entry.2.dependsOn,
      definition.services.contains dependency.service = true :=
    ((List.forall₂_and_left _ _).mp (describes.services.imp fun _ _ makes =>
      ⟨fun _ member => Service.ofSpec_dependencies makes.2 member, makes⟩)).1
  rw [undeclaredDependencies, List.filter_eq_nil_iff]
  intro other awaited
  obtain ⟨spec, isValue, isDependency⟩ := List.mem_flatMap.mp awaited
  obtain ⟨entry, listed, rfl⟩ := List.mem_map.mp isValue
  obtain ⟨dependency, member, rfl⟩ := List.mem_map.mp isDependency
  simp [all entry listed dependency member]

end Entities

/-! ### Building -/

/-- Applies the settings of a definition that are for all services. -/
def applySettings (definition : StackDefinition) : Edit Stack Unit := do
  definition.environment.toList.forM fun (key, value) => Stack.setEnv key value
  definition.envFiles.forM Stack.addEnvFile

theorem apply_eq (definition : StackDefinition) : definition.apply = (do
    definition.applySettings
    definition.createOthers
    definition.createLinked) := by
  simp only [apply, applySettings, createOthers, createLinked, bind_assoc]

theorem empty_of_create {name : String} {paths : KnownPaths} {start : Stack}
    (created : Stack.create name paths = .ok start) : Empty start := by
  obtain ⟨_, _, created⟩ := bind_eq_ok.mp created
  obtain ⟨_, _, same⟩ := bind_eq_ok.mp created
  cases same
  exact ⟨rfl, rfl, rfl, rfl, rfl, rfl⟩

theorem applySettings_empty {definition : StackDefinition} {before after : Stack}
    (accepted : definition.applySettings.Accepts before after) (empty : Empty before) :
    Empty after := by
  obtain ⟨between, environment, files⟩ := accepts_bind.mp accepted
  have kept : Empty between := by
    refine environment.forM_keeps (fun (key, value) one two set empty => ?_) empty
    obtain ⟨_, modified⟩ := accepts_check_bind.mp set
    rw [accepts_modify.mp modified]
    exact { empty with }
  refine files.forM_keeps (fun path one two added empty => ?_) kept
  obtain ⟨_, added⟩ := accepts_check_bind.mp (accepts_get_bind.mp added)
  obtain ⟨_, stored⟩ := accepts_check_bind.mp added
  rw [accepts_set.mp stored]
  exact { empty with }

/-- The settings for all services come first, and leave a stack without entities. -/
theorem FillsServices.applied {definition : StackDefinition} {edit : Edit Stack Unit}
    (fills : definition.FillsServices edit) {start stack : Stack} (empty : Empty start) :
    (do
      definition.applySettings
      definition.createOthers
      edit).Accepts start stack ↔
      ∃ base, definition.applySettings.Accepts start base ∧ definition.Describes base stack := by
  rw [accepts_bind]
  refine exists_congr fun base => and_congr_right fun accepted => ?_
  exact fills.describes (applySettings_empty accepted empty)

/-- **A definition is built exactly into the stacks that it describes**, beside its settings for all
services. -/
theorem build_eq_ok {definition : StackDefinition} {paths : KnownPaths} {stack : Stack} :
    definition.build paths = .ok stack ↔ ∃ name start base, definition.name = some name ∧
      Stack.create name paths = .ok start ∧ definition.applySettings.Accepts start base ∧
      definition.Describes base stack := by
  unfold build
  cases definition.name with
  | none => simp
  | some name =>
    dsimp only
    rw [apply_eq]
    constructor
    · intro built
      split at built
      · cases built
      · obtain ⟨start, created, built⟩ := bind_eq_ok.mp built
        obtain ⟨⟨_, left⟩, accepted, same⟩ := bind_eq_ok.mp built
        cases same
        obtain ⟨base, settings, describes⟩ :=
          (createLinked_fills.applied (empty_of_create created)).mp (onCopy_eq_ok.mp accepted)
        exact ⟨name, start, base, rfl, created, settings, describes⟩
    · rintro ⟨_, start, base, same, created, settings, describes⟩
      cases same
      rw [describes.declared]
      have accepted := (createLinked_fills.applied (empty_of_create created)).mpr
        ⟨base, settings, describes⟩
      exact bind_eq_ok.mpr ⟨start, created,
        bind_eq_ok.mpr ⟨((), stack), onCopy_eq_ok.mpr accepted, rfl⟩⟩

/-! ### Building in document order -/

/-- Applies the settings and entities of a definition in document order, services with all their
references. -/
def applyInOrder (definition : StackDefinition) : Edit Stack Unit := do
  definition.environment.toList.forM fun (key, value) => Stack.setEnv key value
  definition.envFiles.forM Stack.addEnvFile
  definition.networks.toList.forM fun (name, spec) => Stack.createNetwork name spec
  definition.volumes.toList.forM fun (name, spec) => Stack.createVolume name spec
  definition.secrets.toList.forM fun (name, spec) => Stack.createSecret name spec
  definition.configs.toList.forM fun (name, spec) => Stack.createConfig name spec
  definition.services.toList.forM fun (name, spec) => Stack.createService name spec

/-- The stack that one creation after the other gives, in document order. -/
def replay (definition : StackDefinition) (name : String) (paths : KnownPaths) :
    Except Fault Stack := do
  let stack ← Stack.create name paths
  let (_, built) ← definition.applyInOrder.onCopy stack
  return built

theorem replay_eq_ok {definition : StackDefinition} {name : String} {paths : KnownPaths}
    {stack : Stack} (back : Stack.RefersBack [] definition.services.entries) :
    definition.replay name paths = .ok stack ↔ ∃ start base,
      Stack.create name paths = .ok start ∧ definition.applySettings.Accepts start base ∧
      definition.Describes base stack := by
  have parts : definition.applyInOrder = (do
      definition.applySettings
      definition.createOthers
      definition.createInOrder) := by
    simp only [applyInOrder, applySettings, createOthers, createInOrder, bind_assoc]
  unfold replay
  rw [parts]
  simp only [bind_eq_ok, Prod.exists, onCopy_eq_ok]
  constructor
  · rintro ⟨start, created, _, _, accepted, same⟩
    cases same
    obtain ⟨base, settings, describes⟩ :=
      ((createInOrder_fills back).applied (empty_of_create created)).mp accepted
    exact ⟨start, base, created, settings, describes⟩
  · rintro ⟨start, base, created, settings, describes⟩
    have accepted := ((createInOrder_fills back).applied (empty_of_create created)).mpr
      ⟨base, settings, describes⟩
    exact ⟨start, created, (), stack, accepted, rfl⟩

end StackDefinition

/-- **Where services refer only to services before them, building a definition is creating its
entities one after the other**, in document order and with all their references: both accept the
same definitions under the same files, and give the same stack. -/
theorem build_eq_replay {definition : StackDefinition} {name : String}
    (named : definition.name = some name)
    (back : Stack.RefersBack [] definition.services.entries) (paths : KnownPaths) (stack : Stack) :
    definition.build paths = .ok stack ↔ definition.replay name paths = .ok stack := by
  rw [StackDefinition.build_eq_ok, StackDefinition.replay_eq_ok back, named]
  constructor
  · rintro ⟨_, start, base, same, described⟩
    cases same
    exact ⟨start, base, described⟩
  · rintro ⟨start, base, described⟩
    exact ⟨name, start, base, rfl, described⟩

/-- The definition of a service that gives its image only. -/
def Service.Spec.ofImage (image : String) : Service.Spec where
  isMain := false
  image := some image
  build := none
  ports := []
  volumes := []
  environment := .empty
  envFiles := []
  entrypoint := none
  command := none
  dependsOn := []
  networks := []
  networkMode := none
  user := none
  restart := none
  logging := none
  healthcheck := none
  externalLinks := []
  secrets := []
  configs := []
  deploy := none
  securityOptions := []

/-- A definition whose second service waits for the first one and is in its network. -/
def StackDefinition.chained : StackDefinition where
  name := some "shop"
  environment := .ofList [("TZ", "UTC")]
  envFiles := ["common.env"]
  services := .ofList [
    ("db", { Service.Spec.ofImage "postgres" with secrets := ["key"] }),
    ("web", { Service.Spec.ofImage "nginx" with
      isMain := true
      dependsOn := [⟨"db", some "service_healthy"⟩]
      networkMode := some "service:db" })]
  networks := .empty
  volumes := .empty
  secrets := .ofList [("key", ⟨some "key.txt", none⟩)]
  configs := .empty

theorem build_eq_replay_chained :
    Stack.RefersBack [] StackDefinition.chained.services.entries ∧
      ∃ stack, StackDefinition.chained.replay "shop" .everything = .ok stack ∧
        StackDefinition.chained.build .everything = .ok stack ∧
        (stack.services.names, stack.mainService) = (["db", "web"], some "web") := by
  have back : Stack.RefersBack [] StackDefinition.chained.services.entries := by decide +kernel
  have created : (StackDefinition.chained.replay "shop" .everything).toOption.map
      (fun stack => (stack.services.names, stack.mainService)) =
        some (["db", "web"], some "web") := by
    decide +kernel
  cases replayed : StackDefinition.chained.replay "shop" .everything with
  | error fault =>
    rw [replayed] at created
    cases created
  | ok stack =>
    rw [replayed] at created
    exact ⟨back, stack, rfl, (build_eq_replay rfl back .everything stack).mpr replayed,
      Option.some.inj created⟩

end ContainerStack
