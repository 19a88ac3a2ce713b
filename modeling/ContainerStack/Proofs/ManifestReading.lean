import ContainerStack.Proofs.Guards
import ContainerStack.Proofs.StoredSettings

/-!
**The manifest, read back.**

Each part of the manifest writes the fields of its tree. Strings may be anything; what is written as
it is are words of the manifest, numbers, and names of entities, which are names in every stack that
is reached.

* `Manifest.writes_deploy`, `Manifest.reads_volume`, …: what each part of the manifest writes.
* `Manifest.reads_steps`: the steps of a sound stack are read as its tree.
* `manifest_reads_back`: every manifest that is rendered is read as the tree of its stack.
-/

namespace ContainerStack

open Yaml

/-! ### Words that are written as they are -/

namespace Yaml.Reading

/-- Digits are a plain word. -/
theorem plain_of_digits {text : String} (full : text.toList ≠ [])
    (digits : ∀ char ∈ text.toList, Numeral.isDigit char = true) : Plain text.toList := by
  apply plain_of_isEntityName
  unfold isEntityName hasShape
  cases chars : text.toList with
  | nil => exact absurd chars full
  | cons char rest =>
    rw [chars] at digits
    have first := digits char List.mem_cons_self
    have others : ∀ other ∈ rest, Numeral.isDigit other = true := fun other member =>
      digits other (List.mem_cons_of_mem char member)
    simp only [isLetterOrDigit, first, Bool.or_true, Bool.true_and, List.all_eq_true]
    intro other member
    simp [others other member]

theorem isDigit_of_mem_toDigits {char : Char} {number : Nat}
    (member : char ∈ Nat.toDigits 10 number) : Numeral.isDigit char = true := by
  exact Nat.isDigit_of_mem_toDigits (by decide) (by decide) member

theorem toList_toString (number : Nat) : (toString number).toList = Nat.toDigits 10 number := by
  rw [Nat.toString_eq_ofList_toDigits, String.toList_ofList]

/-- **Numbers are plain words.** -/
theorem plain_toString (number : Nat) : Plain (toString number).toList := by
  refine plain_of_digits ?_ fun char member => ?_
  · rw [toList_toString]
    exact Nat.toDigits_ne_nil
  · rw [toList_toString] at member
    exact isDigit_of_mem_toDigits member

end Yaml.Reading

open Yaml.Reading

theorem FileMode.plain_octal (mode : FileMode) : Plain mode.octal.toList := by
  have written : mode.octal.toList = '0' :: (Nat.toDigits 10 mode.owner.digit ++
      Nat.toDigits 10 mode.group.digit ++ Nat.toDigits 10 mode.others.digit) := by
    show ("0" ++ toString mode.owner.digit ++ toString mode.group.digit ++
      toString mode.others.digit).toList = _
    simp only [String.toList_append, toList_toString]
    rfl
  refine plain_of_digits ?_ fun char member => ?_
  · rw [written]
    exact List.cons_ne_nil _ _
  · simp only [written, List.mem_cons, List.mem_append] at member
    rcases member with rfl | (owner | group) | others
    · decide
    · exact isDigit_of_mem_toDigits owner
    · exact isDigit_of_mem_toDigits group
    · exact isDigit_of_mem_toDigits others

theorem Permissions.onOneLine_letters (permissions : Permissions) :
    onOneLine permissions.letters.toList = true := by
  obtain ⟨read, write, exec⟩ := permissions
  cases read <;> cases write <;> cases exec <;> decide

/-- The comment about a mode stays on its line. -/
theorem FileMode.onOneLine_comment (mode : FileMode) :
    onOneLine ("mode " ++ mode.octal ++ ": " ++ mode.description).toList = true := by
  show onOneLine ("mode " ++ mode.octal ++ ": " ++ ("owner=" ++ mode.owner.letters ++ " group=" ++
    mode.group.letters ++ " others=" ++ mode.others.letters)).toList = true
  simp only [String.toList_append, onOneLine_append, mode.plain_octal.1,
    Permissions.onOneLine_letters]
  decide

namespace Manifest

/-! ### Services -/

theorem writes_build (build : Build) :
    Writes (buildSteps build) [("build", some (buildTree build))] := by
  unfold buildSteps buildTree
  simp only [isPlain_iff]
  split
  · exact .given (.scalar "build" (by decide) build.context)
  · refine .block "build" (by decide) ?_ (by simp)
    exact Writes.cons (.scalar "context" (by decide) build.context)
        (.scalarIfSome "dockerfile" (by decide) build.dockerfile)
      |>.append (.scalarIfSome "target" (by decide) build.target)
      |>.append (.mapBlock "args" (by decide) build.args)
      |>.append (.itemsBlock "ssh" (by decide) _)

theorem writes_source {service : Service} {steps : List Step}
    (made : sourceSteps service = .ok steps) :
    Writes steps
      [("image", imageTree? service.source), ("build", buildTree? service.source)] := by
  unfold sourceSteps at made
  cases source : service.source with
  | none =>
    rw [source] at made
    cases made
  | some given =>
    rw [source] at made
    cases given with
    | image image =>
      cases made
      exact Writes.given (.scalar "image" (by decide) image) |>.without "build"
    | build build =>
      cases made
      exact (Writes.absent "image").append (writes_build build)

theorem writes_command (key : String) (plain : Plain key.toList) (command : Option Command) :
    Writes (commandSteps key command) [(key, command.map commandTree)] := by
  cases command with
  | none => exact .absent key
  | some given =>
    cases given with
    | shell line => exact .given (.scalar key plain line)
    | exec words => exact .given (.flowList key plain words)

theorem writes_restart (restart : Option RestartPolicy) :
    Writes (restartSteps restart) [("restart", restart.map restartTree)] := by
  cases restart with
  | none => exact .absent "restart"
  | some policy =>
    cases policy with
    | onFailure times =>
      refine .block "restart" (by decide) ?_ (by simp)
      exact .cons (.scalar "policy" (by decide) _)
        (.given (.word "times" (by decide) (plain_toString times)))
    | _ => exact .given (.scalar "restart" (by decide) _)

theorem DependencyCondition.plain_word (condition : DependencyCondition) :
    Plain condition.word.toList := by
  cases condition <;> decide

theorem writes_dependencies {dependsOn : OrderedMap (Option DependencyCondition)}
    (named : ∀ name ∈ dependsOn.keys, isEntityName name = true) :
    Writes (dependencySteps dependsOn) [("depends_on", dependencyTree? dependsOn)] := by
  unfold dependencySteps dependencyTree?
  split
  · rename_i conditional
    have entries : Writes (Step.blockUnlessEmpty "depends_on"
        (dependsOn.toList.map fun entry =>
          .block entry.1 [.raw "condition" (entry.2.getD .started).word])) _ :=
      Writes.blockOfEntries "depends_on" (by decide) dependsOn.nodup_keys fun entry member => by
        have plain := plain_of_isEntityName (named entry.1 (List.mem_map_of_mem member))
        exact .entryOfFields plain
          (.given (.word "condition" (by decide) (DependencyCondition.plain_word _))) (by simp)
    cases pairs : dependsOn.toList with
    | nil =>
      have unconditional : dependsOn.values = [] := by
        show dependsOn.toList.map Prod.snd = []
        rw [pairs]
        rfl
      rw [unconditional] at conditional
      cases conditional
    | cons entry rest =>
      rw [pairs] at entries
      exact entries
  · exact .itemsBlock "depends_on" (by decide) _

theorem writes_ports (ports : List PortMapping) :
    Writes (portSteps ports)
      [("ports", Tree.texts? ((ports.filter fun port => !port.isInternalOnly).map portText)),
        ("expose", Tree.texts? ((ports.filter PortMapping.isInternalOnly).map fun port =>
          toString port.internal))] := by
  refine Writes.append (.blockOfTexts "ports" (by decide) fun port member => ?_)
    (.blockOfTexts "expose" (by decide) fun port _ => rfl)
  have published : port.isInternalOnly = false := by simpa using (List.mem_filter.mp member).2
  simp [PortMapping.hostPort, published, portText]

theorem mountLine_eq_ok {stack : Stack} {service : Service} {mount : Mount} {line : String}
    (written : mountLine stack service mount = .ok line) : mountText stack mount = line := by
  cases mount with
  | anonymous path =>
    cases written
    rfl
  | bind hostPath path mode =>
    cases written
    rfl
  | named name path mode =>
    cases mode with
    | some own =>
      cases written
      rfl
    | none =>
      rw [mountLine] at written
      rw [mountText]
      cases found : stack.volumes.get? name with
      | none =>
        rw [found] at written
        cases written
      | some volume =>
        rw [found] at written
        cases written
        rfl

theorem mountSteps_eq_ok {stack : Stack} {service : Service} {steps : List Step}
    (made : mountSteps stack service = .ok steps) :
    steps = Step.itemsBlock "volumes" (service.mounts.map (mountText stack)) := by
  obtain ⟨lines, written, same⟩ := Edit.bind_eq_ok.mp made
  cases same
  have same : List.Forall₂ (· = ·) (service.mounts.map (mountText stack)) lines :=
    List.forall₂_map_left_iff.mpr ((Edit.mapM_eq_ok.mp written).imp fun _ _ => mountLine_eq_ok)
  rw [List.forall₂_eq_eq_eq] at same
  rw [same]

theorem writes_mounts {stack : Stack} {service : Service} {steps : List Step}
    (made : mountSteps stack service = .ok steps) :
    Writes steps [("volumes", Tree.texts? (service.mounts.map (mountText stack)))] := by
  rw [mountSteps_eq_ok made]
  exact .itemsBlock "volumes" (by decide) _

/-- A service joins networks or has a network mode, so one of the two keys is left out. -/
theorem writes_networks {service : Service} (coherent : service.Coherent) :
    Writes (networkSteps service)
      [("networks", Tree.texts? service.networks),
        ("network_mode", service.networkMode.map fun mode => .text (networkModeText mode))] := by
  unfold networkSteps
  simp only [networkModeText_eq]
  split
  · rename_i joinsNone
    rw [List.isEmpty_iff.mp joinsNone]
    have mode := Writes.scalarIfSome "network_mode" (by decide)
      (service.networkMode.map NetworkMode.text)
    rw [Option.map_map] at mode
    exact (Writes.absent "networks").append mode
  · rename_i joins
    have noMode : service.networkMode = none :=
      coherent.modeOrNetworks.resolve_right fun empty => joins (by rw [empty]; rfl)
    rw [noMode]
    exact Writes.itemsBlock "networks" (by decide) service.networks |>.without "network_mode"

theorem reads_config (config : ConfigReference) :
    Reads [configSteps config] [.item (configReferenceTree config)] := by
  refine .itemOfFields ?_ rfl (by simp)
  refine Writes.cons (.scalar "source" (by decide) config.source)
    (.scalarIfSome "target" (by decide) config.target) |>.append ?_
  cases config.mode with
  | none => exact .absent "mode"
  | some mode =>
    exact .given (.cons (.comment mode.onOneLine_comment)
      (.word "mode" (by decide) mode.plain_octal))

theorem writes_healthcheck (check : Option Healthcheck) :
    Writes (healthcheckSteps check) [("healthcheck", check.map healthcheckTree)] := by
  cases check with
  | none => exact .absent "healthcheck"
  | some check =>
    show Writes [.block "healthcheck" (healthcheckBody check)]
      [("healthcheck", some (healthcheckTree check))]
    rw [healthcheckBody, healthcheckTree]
    by_cases disabled : check.isDisabled = true
    · rw [if_pos disabled, if_pos disabled]
      exact .block "healthcheck" (by decide) (.given (.word "disable" (by decide) (by decide)))
        (by simp)
    · rw [if_neg disabled, if_neg disabled]
      refine .block "healthcheck" (by decide) ?_ (by simp)
      rw [← map_testWords]
      exact Writes.listIfSome "test" (by decide) check.testWords
        |>.append (.scalarIfSome "interval" (by decide) check.interval)
        |>.append (.scalarIfSome "timeout" (by decide) check.timeout)
        |>.append (.wordIfSome "retries" (by decide) check.retries plain_toString)
        |>.append (.scalarIfSome "start_period" (by decide) check.startPeriod)

/-- The keys of every logging driver are plain words. -/
theorem plain_tableKeys (driver : LoggingDriver) :
    ∀ key ∈ tableKeys driver.table, Plain key.toList := by
  cases driver <;> decide

theorem writes_logging (logging : Option Logging) :
    Writes (loggingSteps logging) [("logging", logging.map loggingTree)] := by
  cases logging with
  | none => exact .absent "logging"
  | some logging =>
    have keys := logging.options.property
    refine .block "logging" (by decide) (.cons (.scalar "driver" (by decide) _) ?_) (by simp)
    exact .blockOfQuoted "options" (by decide) (keys.nodup logging.driver.nodup_tableKeys)
      fun key member => plain_tableKeys logging.driver key (keys.subset member)

theorem writes_amounts (key : String) (plain : Plain key.toList) (amounts : Option Amounts) :
    Writes (amountSteps key amounts) [(key, amountTree? amounts)] := by
  cases amounts with
  | none => exact .absent key
  | some given =>
    rw [amountSteps, Step.blockIfSome_guarded amountBody_eq_nil]
    refine Writes.blockUnlessEmpty key plain ?_ (by simp)
    exact Writes.quotedIfSome "cpus" (by decide) given.cpus
      |>.append (.scalarIfSome "memory" (by decide) given.memory)

theorem RestartCondition.plain_word (condition : RestartCondition) :
    Plain condition.word.toList := by
  cases condition <;> decide

/-- Resources are written unless no amount is given. -/
theorem writes_resources (resources : Option Resources) :
    Writes (resourceSteps (resources.filter fun given => !given.isEmpty))
      [("resources", resources.bind resourceTree?)] := by
  cases resources with
  | none => exact .absent "resources"
  | some resources =>
    rw [resourceSteps, Step.blockIfSome_guarded resourceBody_eq_nil]
    refine .blockUnlessEmpty "resources" (by decide) ?_ (by simp)
    exact (writes_amounts "limits" (by decide) resources.limits).append
      (writes_amounts "reservations" (by decide) resources.reservations)

/-- A restart policy is written unless it sets nothing. -/
theorem writes_taskRestart (policy : Option TaskRestart) :
    Writes (taskRestartSteps (policy.filter fun given => !given.isEmpty))
      [("restart_policy", policy.bind taskRestartTree?)] := by
  cases policy with
  | none => exact .absent "restart_policy"
  | some policy =>
    rw [taskRestartSteps, Step.blockIfSome_guarded taskRestartBody_eq_nil]
    refine .blockUnlessEmpty "restart_policy" (by decide) ?_ (by simp)
    exact Writes.wordIfSome "condition" (by decide) policy.condition RestartCondition.plain_word
      |>.append (.scalarIfSome "delay" (by decide) policy.delay)
      |>.append (.wordIfSome "max_attempts" (by decide) policy.maxAttempts plain_toString)
      |>.append (.scalarIfSome "window" (by decide) policy.window)

theorem DeployMode.plain_word (mode : DeployMode) : Plain mode.word.toList := by
  cases mode <;> decide

theorem writes_placement (constraints : List String) :
    Writes (placementSteps constraints)
      [("placement", Tree.fields? [("constraints", Tree.texts? constraints)])] := by
  have block := Writes.blockUnlessEmpty "placement" (by decide)
    (.itemsBlock "constraints" (by decide) constraints) (by simp)
  cases constraints with
  | nil => exact block
  | cons first rest => exact block

theorem writes_deploy (deploy : Option Deployment) :
    Writes (deploySteps deploy) [("deploy", deploy.bind deployTree?)] := by
  cases deploy with
  | none => exact .absent "deploy"
  | some deploy =>
    rw [deploySteps, Step.blockIfSome_guarded deployBody_eq_nil]
    refine Writes.blockUnlessEmpty "deploy" (by decide) ?_ (by simp)
    exact Writes.wordIfSome "mode" (by decide) deploy.mode DeployMode.plain_word
      |>.append (.wordIfSome "replicas" (by decide) deploy.replicas plain_toString)
      |>.append (writes_resources deploy.resources)
      |>.append (writes_taskRestart deploy.restartPolicy)
      |>.append (writes_placement deploy.placement)
      |>.append (.mapBlock "labels" (by decide) deploy.labels)

/-- The services that a service waits for have names, because they are registered. -/
theorem dependencies_named {stack : Stack} (sound : stack.Sound) {service : Service}
    (registered : service ∈ stack.services.toList) :
    ∀ other ∈ service.dependsOn.keys, isEntityName other = true := by
  intro other awaited
  obtain ⟨entity, found⟩ :=
    Registry.get?_of_contains ((sound.resolves registered).dependencies other awaited).1
  obtain ⟨same, built, _⟩ := sound.services.get? found
  exact same ▸ built.coherent.named

/-- **A service is a block** that writes the fields of its tree. -/
theorem writes_service {stack : Stack} (sound : stack.Sound) {service : Service}
    (registered : service ∈ stack.services.toList) {step : Step}
    (made : serviceSteps stack service = .ok step) :
    ∃ body fields, step = .block service.name body ∧ Writes body fields ∧
      (fields.map Prod.fst).Nodup ∧ serviceTree stack service = .ofFields fields := by
  have coherent := (sound.services.of_mem registered).1.coherent
  obtain ⟨source, sourced, made⟩ := Edit.bind_eq_ok.mp made
  obtain ⟨mounts, mounted, same⟩ := Edit.bind_eq_ok.mp made
  cases same
  refine ⟨_, _, rfl, ?writes, ?distinct, rfl⟩
  case distinct => simp
  rw [← mergedEnvironment_toList, ← mergedEnvFiles_eq]
  have written := writes_source sourced
    |>.append (.quotedIfSome "user" (by decide) service.user)
    |>.append (writes_command "entrypoint" (by decide) service.entrypoint)
    |>.append (writes_command "command" (by decide) service.command)
    |>.append (writes_restart service.restart)
    |>.append (writes_dependencies (dependencies_named sound registered))
    |>.append (.mapBlock "environment" (by decide) (mergedEnvironment stack service))
    |>.append (.itemsBlock "env_file" (by decide) (mergedEnvFiles stack service))
    |>.append (writes_ports service.ports)
    |>.append (writes_mounts mounted)
    |>.append (writes_networks coherent)
    |>.append (.itemsBlock "external_links" (by decide) service.externalLinks)
    |>.append (.itemsBlock "secrets" (by decide) service.secrets)
    |>.append (.blockOfItems "configs" (by decide) fun config (_ : config ∈ service.configs) =>
      reads_config config)
    |>.append (writes_healthcheck service.healthcheck)
    |>.append (writes_logging service.logging)
    |>.append (writes_deploy service.deploy)
    |>.append (.itemsBlock "security_opt" (by decide) service.securityOptions)
  simpa only [List.cons_append, List.nil_append] using written

theorem reads_service {stack : Stack} (sound : stack.Sound) {service : Service}
    (registered : service ∈ stack.services.toList) {step : Step}
    (made : serviceSteps stack service = .ok step) :
    Reads [step] [.entry service.name (serviceTree stack service)] := by
  have named := (sound.services.of_mem registered).1.coherent.named
  obtain ⟨body, fields, rfl, writes, distinct, tree⟩ := writes_service sound registered made
  rw [tree]
  exact .entryOfFields (plain_of_isEntityName named) writes distinct

/-! ### Other entities -/

theorem reads_external {name : String} (plain : Plain name.toList) {external : External}
    (isExternal : external.isExternal = true) {fields : Tree} :
    Reads [.block name (externalSteps external)]
      [.entry name ((externalTree? (some external)).getD fields)] := by
  cases external with
  | named other =>
    show Reads _ [.entry name (.ofFields
      [("name", some (.text other)), ("external", some (.text "true"))])]
    refine .entryOfFields plain ?_ (by simp)
    exact .cons (.scalar "name" (by decide) other)
      (.given (.word "external" (by decide) (by decide)))
  | flag flag =>
    cases isExternal
    exact .entryOfFields plain (.given (.word "external" (by decide) (by decide))) (by simp)

/-- The keys that a driver may have in the engine's words. -/
def engineKeys : VolumeDriver → List String
  | .nfs => ["type", "o", "device"]
  | .tmpfs => ["type", "device", "o"]
  | .glusterfs => ["voluri"]
  | driver => tableKeys driver.table

theorem engineKeys_plain (driver : VolumeDriver) :
    (engineKeys driver).Nodup ∧ ∀ key ∈ engineKeys driver, Plain key.toList := by
  cases driver <;> decide

theorem engineOptions_keys (storage : VolumeStorage) :
    (storage.engineOptions.map Prod.fst).Sublist (engineKeys storage.driver) := by
  have fields : (engineFields storage).map Prod.fst = engineKeys storage.driver := by
    obtain ⟨driver, options⟩ := storage
    cases driver <;> rfl
  have keys := Field.keys_given (engineFields storage)
  rwa [given_engineFields, List.map_map, fields] at keys

/-- The storage of a volume is written unless it is the one of the host without options. -/
theorem writes_storage (volume : Volume) :
    Writes (storageSteps volume.shownStorage)
      [("driver", if volume.storage.driver = .onHost ∧ volume.storage.options.toList = [] then none
          else some (.text (engineDriver volume.storage.driver))),
        ("driver_opts", Tree.fields? (engineFields volume.storage))] := by
  have plain : volume.storage.isPlain = true ↔
      volume.storage.driver = .onHost ∧ volume.storage.options.toList = [] := by
    simp [VolumeStorage.isPlain]
  rw [Volume.shownStorage, fields?_engineFields, engineDriver_eq]
  simp only [plain]
  split
  next unset =>
    rw [engineOptions_onHost unset.1, unset.2]
    exact (Writes.absent "driver").append (.absent "driver_opts")
  next set =>
    obtain ⟨distinct, plain⟩ := engineKeys_plain volume.storage.driver
    have keys := engineOptions_keys volume.storage
    refine .cons (.scalar "driver" (by decide) _) ?_
    exact .blockOfQuoted "driver_opts" (by decide) (keys.nodup distinct) fun key member =>
      plain key (keys.subset member)

theorem reads_volume {volume : Volume} (named : isEntityName volume.name = true) :
    Reads [volumeSteps volume] [.entry volume.name (volumeTree volume)] := by
  have plain := plain_of_isEntityName named
  have agrees := @volumeBody_eq_nil volume
  unfold volumeSteps volumeTree
  rw [← externalTree?_filter]
  show Reads _ [.entry volume.name ((externalTree? volume.shownExternal).getD _)]
  unfold volumeBody at agrees ⊢
  cases shown : volume.shownExternal with
  | some external =>
    rw [if_neg (by simp)]
    exact reads_external plain (Option.filter_eq_some_iff.mp shown).2
  | none =>
    rw [shown] at agrees
    rw [externalTree?_none, Option.getD_none]
    have body := (writes_storage volume).append (.mapBlock "labels" (by decide) volume.labels)
    dsimp only at agrees ⊢
    split
    · rename_i unset
      rw [agrees.mpr unset] at body
      have tree := body.ofFields_of_nil
      rw [List.cons_append, List.cons_append, List.nil_append] at tree
      rw [tree]
      exact .bareKey plain
    · exact .entryOfFields plain body (by simp)

theorem reads_pool (pool : IpamPool) : Reads [poolSteps pool] [.item (poolTree pool)] := by
  refine .itemOfFields ?_ rfl (by simp)
  exact Writes.cons (.scalar "subnet" (by decide) pool.subnet)
      (.scalarIfSome "gateway" (by decide) pool.gateway)
    |>.append (.scalarIfSome "ip_range" (by decide) pool.ipRange)
    |>.append (.mapBlock "aux_addresses" (by decide) pool.auxAddresses)

/-- Address management is written unless it sets nothing. -/
theorem writes_ipam (ipam : Option Ipam) :
    Writes (ipamSteps (ipam.filter fun given => !given.isEmpty))
      [("ipam", ipam.bind ipamTree?)] := by
  cases ipam with
  | none => exact .absent "ipam"
  | some ipam =>
    rw [ipamSteps, Step.blockIfSome_guarded ipamBody_eq_nil]
    refine .blockUnlessEmpty "ipam" (by decide) ?_ (by simp)
    exact (Writes.scalarIfSome "driver" (by decide) ipam.driver).append
      (.blockOfItems "config" (by decide) fun pool _ => reads_pool pool)

theorem writes_flag (key : String) (plain : Plain key.toList) (flag : Option Bool) :
    Writes (flagSteps key flag) [(key, flag.map flagTree)] :=
  .wordIfSome key plain flag fun isSet => by cases isSet <;> decide

theorem NetworkDriver.plain_word (driver : NetworkDriver) : Plain driver.word.toList := by
  cases driver <;> decide

theorem reads_network {network : Network} (named : isEntityName network.name = true) :
    Reads [networkEntrySteps network] [.entry network.name (networkTree network)] := by
  have plain := plain_of_isEntityName named
  unfold networkEntrySteps networkTree
  rw [← externalTree?_filter]
  show Reads _ [.entry network.name ((externalTree? network.shownExternal).getD _)]
  cases shown : network.shownExternal with
  | some external => exact reads_external plain (Option.filter_eq_some_iff.mp shown).2
  | none =>
    rw [externalTree?_none, Option.getD_none]
    refine .entryOfFields plain ?_ (by simp)
    refine .cons (.word "driver" (by decide) (NetworkDriver.plain_word network.driver)) ?_
    exact Writes.mapBlock "driver_opts" (by decide) network.driverOptions
      |>.append (writes_ipam network.ipam)
      |>.append (writes_flag "internal" (by decide) network.isInternal)
      |>.append (writes_flag "attachable" (by decide) network.isAttachable)
      |>.append (writes_flag "enable_ipv6" (by decide) network.enablesIpv6)
      |>.append (.mapBlock "labels" (by decide) network.labels)

theorem reads_secret {secret : Secret} (named : isEntityName secret.name = true) :
    Reads [secretSteps secret] [.entry secret.name (secretTree secret)] := by
  have plain := plain_of_isEntityName named
  unfold secretSteps secretTree
  cases secret.source with
  | file path =>
    exact .entryOfFields plain (.given (.scalar "file" (by decide) path)) (by simp)
  | external =>
    exact .entryOfFields plain (.given (.word "external" (by decide) (by decide))) (by simp)

theorem reads_configEntry {config : ConfigFile} (named : isEntityName config.name = true) :
    Reads [configEntrySteps config] [.entry config.name (configTree config)] :=
  .entryOfFields (plain_of_isEntityName named)
    (.given (.scalar "file" (by decide) config.file)) (by simp)

/-! ### The whole document -/

variable {stack : Stack}

theorem reads_services (sound : stack.Sound) {services : List Step}
    (made : stack.renderOrder.mapM (serviceSteps stack) = .ok services) :
    Reads services (entryParts (stack.mainFirst.map fun service =>
      (service.name, serviceTree stack service))) := by
  rw [entryParts, List.map_map, ← sound.renderOrder_eq]
  refine Reads.forall₂ ?_ (Edit.mapM_eq_ok.mp made)
  exact fun service member step made => reads_service sound (sound.mem_renderOrder.mp member) made

/-- A section with one entry for each entity of a registry. -/
theorem writes_section {α : Type} [Named α] {holds : α → Prop} {registry : Registry α}
    (every : registry.Every holds) (key : String) (plain : Plain key.toList) {write : α → Step}
    {value : α → Tree}
    (each : ∀ entity, holds entity →
      Reads [write entity] [.entry (Named.name entity) (value entity)]) :
    Writes (Step.blockUnlessEmpty key (registry.toList.map write))
      [(key, Tree.record? (registry.toList.map fun entity =>
        (Named.name entity, value entity)))] := by
  refine .blockOfEntries key plain ?_ fun entity member => each entity (every.of_mem member)
  exact every.names_nodup

/-- **The steps of a sound stack are read as its tree.** -/
theorem reads_steps (sound : stack.Sound) {written : List Step}
    (made : steps stack = .ok written) :
    ∃ parts, Reads written parts ∧ treeOf? parts = some stack.tree := by
  unfold steps at made
  split at made
  · cases made
  · rename_i nonempty
    obtain ⟨services, served, same⟩ := Edit.bind_eq_ok.mp made
    cases same
    have first : Writes [.block "services" services] [("services", Tree.record?
        (stack.mainFirst.map fun service => (service.name, serviceTree stack service)))] := by
      refine .blockOfParts "services" (by decide) (reads_services sound served) ?_ fun empty => ?_
      · rw [List.map_map, ← sound.renderOrder_eq]
        exact sound.renderOrder_names
      · rw [← sound.renderOrder_eq] at empty
        exact nonempty (sound.renderOrder_eq_nil.mp (List.map_eq_nil_iff.mp empty))
    have sections := (writes_section sound.volumes "volumes" (by decide)
        fun _ built => reads_volume built.named)
      |>.append (writes_section sound.networks "networks" (by decide)
        fun _ built => reads_network built.named)
      |>.append (writes_section sound.secrets "secrets" (by decide) fun _ => reads_secret)
      |>.append (writes_section sound.configs "configs" (by decide) fun _ => reads_configEntry)
    have all := first.append sections
    rw [List.cons_append, List.cons_append, List.cons_append, List.cons_append, List.nil_append]
      at all
    exact ⟨_, all.reads, treeOf?_fields (by simp)⟩

/-- **They are rendered**, and their text is read as that tree. -/
theorem read?_render (sound : stack.Sound) {written : List Step}
    (made : steps stack = .ok written) :
    ∃ text, Step.render written = .ok text ∧ read? text = some stack.tree := by
  obtain ⟨parts, reads, tree⟩ := reads_steps sound made
  exact reads.read?_render tree

end Manifest

/-- A run that uses the settings of every kind of entity, with text which would mean something else
without quotes. The service that is added last becomes the main one, and of its deployment there is
nothing to write. -/
def Stack.awkwardRun {db web : Service} (dbCreated : Service.create "db" = .ok db)
    (webCreated : Service.create "web" = .ok web) : List Stack.Operation :=
  [.setEnv "MOTTO" "first: - #1\nsecond", .setEnv "LEVEL" "1", .addEnvFile "- shared.env",
    .addEnvFile "common.env",
    .createVolume "data" ⟨none, .empty, none, .empty, none, none, false, none⟩,
    .createVolume "exports" ⟨some "nfs", .ofList [("share", "/a b"), ("server", "10.0.0.5"),
      ("options", "ro")], none, .empty, none, none, false, none⟩,
    .createVolume "scratch" ⟨none, .empty, none, .empty, none, some "ro", true, some "64m"⟩,
    .createVolume "legacy" ⟨none, .empty, some (.named "old: data"), .empty, none, none, false,
      none⟩,
    .createNetwork "front" ⟨some "overlay", .empty, some ⟨some "null",
      [⟨some "10.1.0.0/16", some "10.1.0.1", none, .ofList [("db", "10.1.0.9")]⟩]⟩, some true,
      none, none, none, .ofList [("note", "#1")], none⟩,
    .createNetwork "back" ⟨none, .empty, none, none, none, none, some (.flag true), .empty, none⟩,
    .createSecret "token" ⟨some "token: new", none⟩, .createConfig "site" ⟨some "site.conf"⟩,
    .addService _ (Service.assembled_built dbCreated .everything
      [.build ⟨"./db", some "Dockerfile", none, .ofList [("MODE", "a: b")], .empty⟩,
        .networkMode (.container "vpn"),
        .healthcheck ⟨some (.shell "test -f \"/tmp/up\""), some "10s", none, none, some 3, false⟩,
        .deploy ⟨some .replicated, some 2, some ⟨none, some ⟨some "0.5", some "64M"⟩⟩,
          some ⟨some .onFailure, some "5s", none, none⟩, ["node.role == manager"], .empty⟩]),
    .addService _ (Service.assembled_built webCreated .everything
      [.image "nginx", .user "1000:1000", .entrypoint (.exec ["sh", "-c", "echo \"#\""]),
        .command (.shell "- run: \"all\" # now"), .restart (.onFailure 3),
        .dependency "db" (some .healthy), .env "PORT" "80", .env "LEVEL" "yes",
        .envFile "web.env", .envFile "common.env", .port ⟨80, some 8080, false⟩,
        .port ⟨9000, none, true⟩, .mount (.named "data" "/srv" none), .network "front",
        .externalLink "cache:c", .secret "token",
        .config ⟨"site", some "/etc/site", some ⟨⟨true, true, false⟩, ⟨true, false, false⟩,
          ⟨false, false, false⟩⟩⟩,
        .healthcheck ⟨some (.exec ["curl", "-f", "a, b"]), none, none, none, none, false⟩,
        .logging (.filled .jsonFile (.ofList [("max-size", "10m")])),
        .deploy ⟨none, none, some ⟨none, some ⟨none, none⟩⟩, some ⟨none, none, none, none⟩, [],
          .empty⟩,
        .securityOption "no-new-privileges"]),
    .setMainService "web"]

end ContainerStack
