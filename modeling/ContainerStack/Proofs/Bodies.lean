import ContainerStack.Proofs.Headings
import ContainerStack.Proofs.Healthchecks

/-!
**Every block of a manifest has a body.**

Each part of a manifest that opens a block writes something in it. Where a guard looks at the value
and not at what is written, the two agree; a health check has something to show because it runs a
command or is turned off.

* `Step.FilledAll`, `FilledAll.scalarIfSome`, …: one lemma for each helper that writes a field.
* `FilledAll.blockIfGuarded`: a block for a value whose guard agrees with its body.
* `Healthcheck.Built`: checks as they are made, which are begun and then given settings;
  `Healthcheck.Built.shows`: what they have to show.
* `Manifest.filled_deploy`, `Manifest.filled_network`, …: the parts of a manifest.
-/

namespace ContainerStack

open Yaml
open Yaml.Reading

/-! ### Helpers -/

namespace Yaml.Step

/-- Under every key of the steps there is something to write. -/
def FilledAll (steps : List Step) : Prop := ∀ step ∈ steps, step.Filled

namespace FilledAll

variable {first second body : List Step} {step : Step} {key : String}

theorem nil : FilledAll [] := List.forall_mem_nil _

theorem single (filled : step.Filled) : FilledAll [step] :=
  List.forall_mem_singleton.mpr filled

theorem cons (one : step.Filled) (others : FilledAll second) : FilledAll (step :: second) :=
  List.forall_mem_cons.mpr ⟨one, others⟩

theorem append (one : FilledAll first) (two : FilledAll second) : FilledAll (first ++ second) :=
  List.forall_mem_append.mpr ⟨one, two⟩

theorem map {α : Type} {elements : List α} {write : α → Step}
    (each : ∀ element ∈ elements, (write element).Filled) : FilledAll (elements.map write) :=
  List.forall_mem_map.mpr each

section Keys

variable (key) (plain : Plain key.toList)

include plain

theorem scalarIfSome (value : Option String) : FilledAll (Step.scalarIfSome key value) := by
  cases value with
  | none => exact nil
  | some text => exact single (.scalar text plain)

theorem quotedIfSome (value : Option String) : FilledAll (Step.quotedIfSome key value) := by
  cases value with
  | none => exact nil
  | some text => exact single (.quoted text plain)

theorem rawIfSome {α : Type} (value : Option α) {word : α → String}
    (quiet : ∀ given, Text.isHeading (word given) = false) :
    FilledAll (Step.rawIfSome key (value.map word)) := by
  cases value with
  | none => exact nil
  | some given => exact single (.raw plain (quiet given))

/-- A plain word under a key, if there is one. -/
theorem wordIfSome {α : Type} (value : Option α) {word : α → String}
    (words : ∀ given, Plain (word given).toList) :
    FilledAll (Step.rawIfSome key (value.map word)) :=
  rawIfSome key plain value fun given => Text.isHeading_plain (words given)

theorem itemsBlock (items : List String) : FilledAll (Step.itemsBlock key items) := by
  cases items with
  | nil => exact nil
  | cons item rest =>
    exact single (.block plain (List.cons_ne_nil _ _) (map fun other _ => .item other))

theorem mapBlock (entries : List (String × String)) : FilledAll (Step.mapBlock key entries) := by
  cases entries with
  | nil => exact nil
  | cons entry rest => exact single (.quotedMap plain (List.cons_ne_nil _ _))

/-- **A guard that looks at the body.** -/
theorem blockUnlessEmpty (filled : FilledAll body) :
    FilledAll (Step.blockUnlessEmpty key body) := by
  cases body with
  | nil => exact nil
  | cons step rest => exact single (.block plain (List.cons_ne_nil _ _) filled)

/-- Quoted values under keys that are plain. -/
theorem blockOfQuoted {entries : List (String × String)}
    (keys : ∀ other ∈ entries.map Prod.fst, Plain other.toList) :
    FilledAll (Step.blockUnlessEmpty key
      (entries.map fun (name, value) => .quoted name value)) :=
  blockUnlessEmpty key plain (map fun entry member =>
    .quoted entry.2 (keys entry.1 (List.mem_map_of_mem member)))

theorem blockIfSome {α : Type} {body : α → List Step} {value : Option α}
    (full : ∀ given ∈ value, body given ≠ []) (filled : ∀ given, FilledAll (body given)) :
    FilledAll (Step.blockIfSome key body value) := by
  cases value with
  | none => exact nil
  | some given => exact single (.block plain (full given rfl) (filled given))

/-- **A guard that looks at the value**, and agrees with the body that it guards. -/
theorem blockIfGuarded {α : Type} {body : α → List Step} {isEmpty : α → Bool}
    (agrees : ∀ {value}, body value = [] ↔ isEmpty value = true)
    (filled : ∀ given, FilledAll (body given)) (value : Option α) :
    FilledAll (Step.blockIfSome key body (value.filter fun given => !isEmpty given)) := by
  refine blockIfSome key plain (fun given shown nothing => ?_) filled
  have guarded : (!isEmpty given) = true := (Option.mem_filter_iff.mp shown).2
  rw [agrees.mp nothing] at guarded
  cases guarded

end Keys

end FilledAll

end Yaml.Step

/-! ### Health checks -/

namespace Healthcheck

/-- The check was made by one of the ways to make one, and by its setters. -/
inductive Built : Healthcheck → Prop
  | running {test : Command} {check : Healthcheck} :
      Healthcheck.running test = .ok check → Built check
  | disabled : Built Healthcheck.disabled
  | ofSpec {spec : Spec} {check : Healthcheck} :
      Healthcheck.ofSpec spec = .ok check → Built check
  | withInterval {check next : Healthcheck} {interval : String} :
      Built check → check.withInterval interval = .ok next → Built next
  | withTimeout {check next : Healthcheck} {timeout : String} :
      Built check → check.withTimeout timeout = .ok next → Built next
  | withStartPeriod {check next : Healthcheck} {period : String} :
      Built check → check.withStartPeriod period = .ok next → Built next
  | withRetries {check next : Healthcheck} {retries : Nat} :
      Built check → check.withRetries retries = .ok next → Built next

/-- There is something to show: a command, or that the check is turned off. -/
def Shows (check : Healthcheck) : Prop := check.isDisabled = true ∨ check.test.isSome = true

variable {check next : Healthcheck}

/-- The check was begun and then given settings. -/
def Given (check : Healthcheck) : Prop :=
  ∃ (start : Healthcheck) (settings : List Setting), start.Begun ∧ start.after settings = .ok check

theorem Begun.given (begun : check.Begun) : check.Given := ⟨check, [], begun, rfl⟩

theorem Given.set (given : check.Given) (setting : Setting) (set : setting.set check = .ok next) :
    next.Given := by
  obtain ⟨start, settings, begun, made⟩ := given
  refine ⟨start, settings ++ [setting], begun, ?_⟩
  rw [after_append, made]
  exact (bind_pure (setting.set check)).trans set

theorem Built.given (built : check.Built) : check.Given := by
  induction built with
  | running made => exact (Begun.running made).given
  | disabled => exact Begun.disabled.given
  | ofSpec made => exact (Begun.ofSpec made).given
  | withInterval _ set ih => exact ih.set (.interval _) set
  | withTimeout _ set ih => exact ih.set (.timeout _) set
  | withStartPeriod _ set ih => exact ih.set (.startPeriod _) set
  | withRetries _ set ih => exact ih.set (.retries _) set

/-- **A check that was made has something to show.** -/
theorem Built.shows (built : check.Built) : check.Shows := by
  obtain ⟨start, settings, begun, made⟩ := built.given
  obtain ⟨_, _, off⟩ | ⟨_, command⟩ := after_cases begun made
  · exact .inl off
  · exact .inr command

end Healthcheck

/-! ### Services -/

theorem FileMode.isHeading_comment (mode : FileMode) :
    Text.isHeading ("mode " ++ mode.octal ++ ": " ++ mode.description) = false := by
  have letters : ∀ permissions : Permissions,
      permissions.letters.toList.getLast?.isSome = true ∧
        Text.isHeading permissions.letters = false := by
    rintro ⟨read, write, exec⟩
    cases read <;> cases write <;> cases exec <;> decide
  obtain ⟨full, quiet⟩ := letters mode.others
  rw [Text.isHeading_append (Text.isHeading_ending _ (by decide))]
  exact (Text.isHeading_ending _ full).trans quiet

namespace Manifest

open Yaml (Step)
open Yaml.Step (FilledAll Filled)

theorem filled_build (build : Build) : FilledAll (buildSteps build) := by
  unfold buildSteps
  split
  · exact .single (.scalar _ (by decide))
  · refine .single (.block (by decide) (List.cons_ne_nil _ _) ?_)
    exact FilledAll.cons (.scalar _ (by decide))
        (.scalarIfSome "dockerfile" (by decide) build.dockerfile)
      |>.append (.scalarIfSome "target" (by decide) build.target)
      |>.append (.mapBlock "args" (by decide) _)
      |>.append (.itemsBlock "ssh" (by decide) _)

theorem filled_source {service : Service} {steps : List Step}
    (made : sourceSteps service = .ok steps) : FilledAll steps := by
  unfold sourceSteps at made
  split at made
  · cases made
    exact .single (.scalar _ (by decide))
  · cases made
    exact filled_build _
  · cases made

/-- A service that is written says where its image comes from. -/
theorem sourceSteps_ne_nil {service : Service} {steps : List Step}
    (made : sourceSteps service = .ok steps) : steps ≠ [] := by
  unfold sourceSteps at made
  split at made
  · cases made
    exact List.cons_ne_nil _ _
  · cases made
    unfold buildSteps
    split <;> exact List.cons_ne_nil _ _
  · cases made

theorem filled_command (key : String) (plain : Plain key.toList) (command : Option Command) :
    FilledAll (commandSteps key command) := by
  cases command with
  | none => exact .nil
  | some given =>
    cases given with
    | shell line => exact .single (.scalar line plain)
    | exec words => exact .single (.raw plain (Text.isHeading_flowList words))

theorem filled_restart (restart : Option RestartPolicy) : FilledAll (restartSteps restart) := by
  cases restart with
  | none => exact .nil
  | some policy =>
    cases policy with
    | onFailure times =>
      refine .single (.block (by decide) (List.cons_ne_nil _ _) ?_)
      exact FilledAll.cons (.scalar _ (by decide))
        (.single (.raw (by decide) (Text.isHeading_plain (plain_toString times))))
    | _ => exact .single (.scalar _ (by decide))

theorem filled_dependencies {dependsOn : OrderedMap (Option DependencyCondition)}
    (named : ∀ name ∈ dependsOn.keys, isEntityName name = true) :
    FilledAll (dependencySteps dependsOn) := by
  unfold dependencySteps
  split
  · rename_i conditional
    refine .single (.block (by decide) (fun nothing => ?_) (FilledAll.map fun entry member => ?_))
    · -- Where a condition is set, there is a dependency.
      have none : dependsOn.values = [] := congrArg _ (List.map_eq_nil_iff.mp nothing)
      rw [none] at conditional
      cases conditional
    · refine .block (plain_of_isEntityName (named entry.1 (List.mem_map_of_mem member)))
        (List.cons_ne_nil _ _) (FilledAll.single (.raw (by decide) ?_))
      exact Text.isHeading_plain (DependencyCondition.plain_word _)
  · exact .itemsBlock "depends_on" (by decide) _

theorem filled_ports (ports : List PortMapping) : FilledAll (portSteps ports) :=
  .append (.blockUnlessEmpty "ports" (by decide) (.map fun _ _ => .quotedItem _))
    (.blockUnlessEmpty "expose" (by decide) (.map fun _ _ => .quotedItem _))

theorem filled_mounts {stack : Stack} {service : Service} {steps : List Step}
    (made : mountSteps stack service = .ok steps) : FilledAll steps := by
  rw [mountSteps_eq_ok made]
  exact .itemsBlock "volumes" (by decide) _

theorem filled_networks (service : Service) : FilledAll (networkSteps service) := by
  unfold networkSteps
  split
  · exact .scalarIfSome "network_mode" (by decide) _
  · exact .itemsBlock "networks" (by decide) _

theorem filled_config (config : ConfigReference) : (configSteps config).Filled := by
  refine .itemBlock "source" config.source (FilledAll.append
    (.scalarIfSome "target" (by decide) config.target) ?_)
  cases config.mode with
  | none => exact .nil
  | some mode =>
    exact FilledAll.cons (.comment mode.isHeading_comment)
      (.single (.raw (by decide) (Text.isHeading_plain mode.plain_octal)))

/-- **What a check has to show is shown.** -/
theorem healthcheckBody_ne_nil {check : Healthcheck} (shows : check.Shows) :
    healthcheckBody check ≠ [] := by
  unfold healthcheckBody
  split
  · exact List.cons_ne_nil _ _
  · rename_i enabled
    have tested : check.test ≠ none := Option.isSome_iff_ne_none.mp (shows.resolve_left enabled)
    simp [Healthcheck.testWords, tested]

theorem filled_healthcheck {check : Option Healthcheck} (built : ∀ given ∈ check, given.Built) :
    FilledAll (healthcheckSteps check) := by
  refine .blockIfSome "healthcheck" (by decide)
    (fun given set => healthcheckBody_ne_nil (built given set).shows) fun given => ?_
  unfold healthcheckBody
  split
  · exact .single (.raw (by decide) (by decide))
  · exact FilledAll.rawIfSome "test" (by decide) given.testWords Text.isHeading_flowList
      |>.append (.scalarIfSome "interval" (by decide) given.interval)
      |>.append (.scalarIfSome "timeout" (by decide) given.timeout)
      |>.append (.wordIfSome "retries" (by decide) given.retries plain_toString)
      |>.append (.scalarIfSome "start_period" (by decide) given.startPeriod)

theorem filled_logging (logging : Option Logging) : FilledAll (loggingSteps logging) := by
  cases logging with
  | none => exact .nil
  | some logging =>
    refine .single (.block (by decide) (List.cons_ne_nil _ _) ?_)
    exact FilledAll.cons (.scalar _ (by decide)) (.blockOfQuoted "options" (by decide)
      fun key member => plain_tableKeys logging.driver key (logging.options.property.subset member))

theorem filled_amounts (key : String) (plain : Plain key.toList) (amounts : Option Amounts) :
    FilledAll (amountSteps key amounts) := by
  refine .blockIfGuarded key plain amountBody_eq_nil (fun given => ?_) amounts
  exact FilledAll.quotedIfSome "cpus" (by decide) given.cpus
    |>.append (.scalarIfSome "memory" (by decide) given.memory)

theorem filled_resources (deploy : Deployment) :
    FilledAll (resourceSteps deploy.shownResources) := by
  refine .blockIfGuarded "resources" (by decide) resourceBody_eq_nil (fun given => ?_) _
  exact (filled_amounts "limits" (by decide) given.limits).append
    (filled_amounts "reservations" (by decide) given.reservations)

theorem filled_taskRestart (deploy : Deployment) :
    FilledAll (taskRestartSteps deploy.shownRestartPolicy) := by
  refine .blockIfGuarded "restart_policy" (by decide) taskRestartBody_eq_nil (fun given => ?_) _
  exact FilledAll.wordIfSome "condition" (by decide) given.condition RestartCondition.plain_word
    |>.append (.scalarIfSome "delay" (by decide) given.delay)
    |>.append (.wordIfSome "max_attempts" (by decide) given.maxAttempts plain_toString)
    |>.append (.scalarIfSome "window" (by decide) given.window)

theorem filled_placement (constraints : List String) : FilledAll (placementSteps constraints) := by
  cases constraints with
  | nil => exact .nil
  | cons first rest =>
    refine .single (.block (by decide) (List.cons_ne_nil _ _) (FilledAll.single ?_))
    exact .block (by decide) (List.cons_ne_nil _ _) (FilledAll.map fun other _ => .item other)

theorem filled_deploy (deploy : Option Deployment) : FilledAll (deploySteps deploy) := by
  refine .blockIfGuarded "deploy" (by decide) deployBody_eq_nil (fun given => ?_) deploy
  exact FilledAll.wordIfSome "mode" (by decide) given.mode DeployMode.plain_word
    |>.append (.wordIfSome "replicas" (by decide) given.replicas plain_toString)
    |>.append (filled_resources given)
    |>.append (filled_taskRestart given)
    |>.append (filled_placement given.placement)
    |>.append (.mapBlock "labels" (by decide) given.labels.toList)

/-- **A service writes something under each of its keys.** -/
theorem filled_service {stack : Stack} (sound : stack.Sound) {service : Service}
    (registered : service ∈ stack.services.toList)
    (built : ∀ check ∈ service.healthcheck, check.Built) {step : Step}
    (made : serviceSteps stack service = .ok step) : step.Filled := by
  have named := (sound.services.of_mem registered).1.coherent.named
  obtain ⟨source, sourced, made⟩ := Edit.bind_eq_ok.mp made
  obtain ⟨mounts, mounted, same⟩ := Edit.bind_eq_ok.mp made
  cases same
  have full := sourceSteps_ne_nil sourced
  refine .block (plain_of_isEntityName named) (by simp [full]) ?_
  exact (filled_source sourced)
    |>.append (.quotedIfSome "user" (by decide) service.user)
    |>.append (filled_command "entrypoint" (by decide) service.entrypoint)
    |>.append (filled_command "command" (by decide) service.command)
    |>.append (filled_restart service.restart)
    |>.append (filled_dependencies (dependencies_named sound registered))
    |>.append (.mapBlock "environment" (by decide) (mergedEnvironment stack service).toList)
    |>.append (.itemsBlock "env_file" (by decide) (mergedEnvFiles stack service))
    |>.append (filled_ports service.ports)
    |>.append (filled_mounts mounted)
    |>.append (filled_networks service)
    |>.append (.itemsBlock "external_links" (by decide) service.externalLinks)
    |>.append (.itemsBlock "secrets" (by decide) service.secrets)
    |>.append (.blockUnlessEmpty "configs" (by decide) (.map fun config _ => filled_config config))
    |>.append (filled_healthcheck built)
    |>.append (filled_logging service.logging)
    |>.append (filled_deploy service.deploy)
    |>.append (.itemsBlock "security_opt" (by decide) service.securityOptions)

theorem filled_services {stack : Stack} (sound : stack.Sound)
    (built : ∀ service ∈ stack.services.toList, ∀ check ∈ service.healthcheck, check.Built)
    {services : List Step} (made : stack.renderOrder.mapM (serviceSteps stack) = .ok services) :
    FilledAll services := by
  have registered : ∀ service ∈ stack.renderOrder, service ∈ stack.services.toList :=
    fun service => sound.mem_renderOrder.mp
  rw [Edit.mapM_eq_ok] at made
  generalize stack.renderOrder = order at registered made
  induction made with
  | nil => exact .nil
  | @cons service step rest others here _ ih =>
    have member := registered service List.mem_cons_self
    exact .cons (filled_service sound member (built service member) here)
      (ih fun other later => registered other (List.mem_cons_of_mem service later))

/-! ### Other entities -/

theorem filled_external (external : External) : FilledAll (externalSteps external) := by
  have flag : Filled (.raw "external" "true") := .raw (by decide) (by decide)
  cases external with
  | named name => exact FilledAll.cons (.scalar name (by decide)) (.single flag)
  | flag isExternal => exact .single flag

theorem filled_storage (storage : Option VolumeStorage) : FilledAll (storageSteps storage) := by
  cases storage with
  | none => exact .nil
  | some storage =>
    have plain := (engineKeys_plain storage.driver).2
    have keys := engineOptions_keys storage
    exact FilledAll.cons (.scalar _ (by decide)) (.blockOfQuoted "driver_opts" (by decide)
      fun key member => plain key (keys.subset member))

theorem filled_volume (volume : Volume) : FilledAll (volumeBody volume) := by
  unfold volumeBody
  split
  · exact filled_external _
  · exact (filled_storage volume.shownStorage).append (.mapBlock "labels" (by decide) _)

theorem filled_pool (pool : IpamPool) : (poolSteps pool).Filled := by
  refine .itemBlock "subnet" pool.subnet ?_
  exact FilledAll.scalarIfSome "gateway" (by decide) pool.gateway
    |>.append (.scalarIfSome "ip_range" (by decide) pool.ipRange)
    |>.append (.mapBlock "aux_addresses" (by decide) pool.auxAddresses.toList)

theorem filled_ipam (network : Network) : FilledAll (ipamSteps network.shownIpam) := by
  refine .blockIfGuarded "ipam" (by decide) ipamBody_eq_nil (fun given => ?_) _
  exact (FilledAll.scalarIfSome "driver" (by decide) given.driver).append
    (.blockUnlessEmpty "config" (by decide) (.map fun pool _ => filled_pool pool))

theorem filled_flag (key : String) (plain : Plain key.toList) (flag : Option Bool) :
    FilledAll (flagSteps key flag) :=
  .wordIfSome key plain flag fun isSet => by cases isSet <;> decide

theorem filled_network {network : Network} (named : isEntityName network.name = true) :
    (networkEntrySteps network).Filled := by
  refine .block (plain_of_isEntityName named) ?full ?_
  case full =>
    split
    · exact externalSteps_ne_nil _
    · exact List.cons_ne_nil _ _
  split
  · exact filled_external _
  · refine FilledAll.cons
      (.raw (by decide) (Text.isHeading_plain (NetworkDriver.plain_word network.driver))) ?_
    exact FilledAll.mapBlock "driver_opts" (by decide) network.driverOptions.toList
      |>.append (filled_ipam network)
      |>.append (filled_flag "internal" (by decide) network.isInternal)
      |>.append (filled_flag "attachable" (by decide) network.isAttachable)
      |>.append (filled_flag "enable_ipv6" (by decide) network.enablesIpv6)
      |>.append (.mapBlock "labels" (by decide) network.labels.toList)

theorem filled_secret {secret : Secret} (named : isEntityName secret.name = true) :
    (secretSteps secret).Filled := by
  unfold secretSteps
  cases secret.source with
  | file path =>
    exact .block (plain_of_isEntityName named) (List.cons_ne_nil _ _)
      (FilledAll.single (.scalar path (by decide)))
  | external =>
    exact .block (plain_of_isEntityName named) (List.cons_ne_nil _ _)
      (FilledAll.single (.raw (by decide) (by decide)))

theorem filled_configEntry {config : ConfigFile} (named : isEntityName config.name = true) :
    (configEntrySteps config).Filled :=
  .block (plain_of_isEntityName named) (List.cons_ne_nil _ _)
    (FilledAll.single (.scalar config.file (by decide)))

end Manifest

end ContainerStack
