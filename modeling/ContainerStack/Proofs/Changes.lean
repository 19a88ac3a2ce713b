import ContainerStack.Proofs.Settings

/-!
**What an accepted call of a setter changes.**

Every setter checks first and assigns last, so a call has two ends: it is refused and the entity is
as it was, or it is accepted and the entity is changed in one known way.

* `Service.Setting.change`, `Network.Setting.change`, …: the entity after an accepted call.
* `Service.Setting.Checked`: what a call that names another entity has found out when it is
  accepted. `Script.Stage.Setting.Checked`: the same for the text that a call is given.
* `Service.setting_assigns`, `Network.setting_assigns`, …: the two ends of every call.
-/

namespace ContainerStack

namespace Validation

theorem ensure_eq_ok {condition : Bool} {fault : Fault} {answer : Unit} :
    ensure condition fault = .ok answer ↔ condition = true := by
  unfold ensure
  split <;> simp_all

/-- **A name that passes the check is a name.** -/
theorem name_eq_ok {kind : EntityKind} {value : String} {answer : Unit} :
    name kind value = .ok answer ↔ isEntityName value = true := by
  unfold name
  constructor
  · intro accepted
    by_cases empty : value = ""
    · simp [empty, ensure, bind, Except.bind] at accepted
    · simpa [empty, ensure_eq_ok, bind, Except.bind, ensure] using accepted
  · intro valid
    have full : value ≠ "" := by
      rintro rfl
      cases valid
    simp [full, valid, ensure, bind, Except.bind]

theorem singleLine_eq_ok {subject value : String} {answer : Unit} :
    singleLine subject value = .ok answer ↔ Text.hasControl value = false := by
  rw [singleLine, ensure_eq_ok, Bool.not_eq_true']

theorem noBlank_of_token {subject value : String} {answer : Unit}
    (accepted : token subject value = .ok answer) : Text.hasBlank value = false := by
  obtain ⟨_, _, accepted⟩ := Edit.bind_eq_ok.mp accepted
  simpa using ensure_eq_ok.mp accepted

theorem head_of_containerPath {subject path : String} {answer : Unit}
    (accepted : containerPath subject path = .ok answer) : path.toList.head? = some '/' := by
  obtain ⟨_, _, absolute⟩ := Edit.bind_eq_ok.mp accepted
  exact beq_iff_eq.mp (ensure_eq_ok.mp absolute)

theorem isAccountName_of_account {subject value : String} {answer : Unit}
    (accepted : account subject value = .ok answer) : isAccountName value = true := by
  obtain ⟨_, _, accepted⟩ := Edit.bind_eq_ok.mp accepted
  exact ensure_eq_ok.mp accepted

end Validation

/-! ### Services -/

namespace Service

/-- The service after an accepted call. -/
def Setting.change (service : Service) : Setting → Service
  | .image reference => { service with source := some (.image reference) }
  | .build given => { service with source := some (.build given) }
  | .port given =>
    if service.ports.contains given then service
    else { service with ports := service.ports ++ [given] }
  | .mount given => { service with mounts := service.mounts ++ [given] }
  | .env key value => { service with environment := service.environment.insert key value }
  | .envFile path => { service with envFiles := appendNew service.envFiles path }
  | .entrypoint given => { service with entrypoint := some given }
  | .command given => { service with command := some given }
  | .dependency other condition =>
    { service with dependsOn := service.dependsOn.insert other condition }
  | .dependencySpec spec =>
    { service with
      dependsOn := service.dependsOn.insert spec.service
        (spec.condition.bind fun word => (DependencyCondition.ofWord word).toOption) }
  | .network name => { service with networks := appendNew service.networks name }
  | .networkMode mode => { service with networkMode := some mode }
  | .user given => { service with user := some given }
  | .externalLink name => { service with externalLinks := appendNew service.externalLinks name }
  | .restart policy => { service with restart := some policy }
  | .logging given => { service with logging := some given }
  | .healthcheck check => { service with healthcheck := some check }
  | .deploy given => { service with deploy := some given }
  | .securityOption given =>
    { service with securityOptions := appendNew service.securityOptions given }
  | .secret name => { service with secrets := appendNew service.secrets name }
  | .config reference => { service with configs := service.configs ++ [reference] }

/-- What an accepted call has found out about the things that it names. -/
def Setting.Checked (lookup : EntityLookup) (service : Service) : Setting → Prop
  | .mount (.named name _ _) => lookup.hasVolume name = true
  | .envFile path => lookup.pathExists path = true
  | .dependency other _ => other ≠ service.name ∧ lookup.hasService other = true
  | .dependencySpec spec => spec.service ≠ service.name ∧ lookup.hasService spec.service = true
  | .network name => service.networkMode = none ∧ lookup.hasNetwork name = true
  | .networkMode mode =>
    service.networks = [] ∧
      ∀ target, mode.target? = some target → target ≠ service.name ∧ lookup.hasService target = true
  | .secret name => lookup.hasSecret name = true
  | .config reference => lookup.hasConfig reference.source = true
  | _ => True

section Settling

variable {lookup : EntityLookup} {service : Service}

theorem setImage_assigns (image : String) :
    (setImage image).Assigns service { service with source := some (.image image) } True := by
  refine .lift fun _ _ => .get ?_
  split
  · exact .throw
  · exact .set ⟨rfl, trivial⟩

theorem setBuild_assigns (build : Build) :
    (setBuild build).Assigns service { service with source := some (.build build) } True := by
  refine .get ?_
  split
  · exact .throw
  · exact .set ⟨rfl, trivial⟩

theorem addPort_assigns (port : PortMapping) :
    (addPort port).Assigns service ((Setting.port port).change service) True := by
  refine .get ?_
  simp only [Setting.change]
  by_cases there : service.ports.contains port = true
  · rw [if_pos there, if_pos there]
    exact .pure ⟨rfl, trivial⟩
  · rw [if_neg there, if_neg there]
    split
    · split
      · exact .throw
      · exact .set ⟨rfl, trivial⟩
    · exact .set ⟨rfl, trivial⟩

theorem addMount_assigns (mount : Mount) :
    (addMount mount lookup).Assigns service { service with mounts := service.mounts ++ [mount] }
      ((Setting.mount mount).Checked lookup service) := by
  refine .get (.lift fun _ _ => .lift fun _ there => ?_)
  split
  · exact .throw
  · refine .set ⟨rfl, ?_⟩
    cases mount with
    | named name path mode => exact Validation.ensure_eq_ok.mp there
    | anonymous path => trivial
    | bind hostPath path mode => trivial

theorem addDependency_assigns (other : String) (condition : Option DependencyCondition) :
    (addDependency other condition lookup).Assigns service
      { service with dependsOn := service.dependsOn.insert other condition }
      (other ≠ service.name ∧ lookup.hasService other = true) := by
  refine .get ?_
  dsimp only
  split
  · exact .throw
  · rename_i differs
    exact .lift fun _ there => .set ⟨rfl, differs, Validation.ensure_eq_ok.mp there⟩

theorem addDependencySpec_assigns (spec : Dependency.Spec) :
    (addDependencySpec spec lookup).Assigns service ((Setting.dependencySpec spec).change service)
      ((Setting.dependencySpec spec).Checked lookup service) := by
  obtain ⟨other, word⟩ := spec
  cases word with
  | none => exact addDependency_assigns other none
  | some word =>
    cases read : DependencyCondition.ofWord word with
    | error fault =>
      refine .inl ⟨fault, ?_⟩
      simp [addDependencySpec, read]
    | ok condition =>
      simp [addDependencySpec, Setting.change, Setting.Checked, read, Except.toOption]
      exact addDependency_assigns other (some condition)

theorem addNetwork_assigns (network : String) :
    (addNetwork network lookup).Assigns service
      { service with networks := appendNew service.networks network }
      (service.networkMode = none ∧ lookup.hasNetwork network = true) := by
  refine .get ?_
  dsimp only
  split
  · exact .throw
  · rename_i free
    exact .lift fun _ there => .set ⟨rfl, by simpa using free, Validation.ensure_eq_ok.mp there⟩

theorem setNetworkMode_assigns (mode : NetworkMode) :
    (setNetworkMode mode lookup).Assigns service { service with networkMode := some mode }
      ((Setting.networkMode mode).Checked lookup service) := by
  refine .get ?_
  dsimp only
  split
  · exact .throw
  · rename_i free
    have alone : service.networks = [] := by simpa using free
    split
    · rename_i target points
      split
      · exact .throw
      · rename_i differs
        refine .lift fun _ there => .set ⟨rfl, alone, fun other same => ?_⟩
        cases points.symm.trans same
        exact ⟨differs, Validation.ensure_eq_ok.mp there⟩
    · rename_i points
      exact .set ⟨rfl, alone, fun target same => absurd same (points target)⟩

theorem addConfig_assigns (config : ConfigReference) :
    (addConfig config lookup).Assigns service
      { service with configs := service.configs ++ [config] }
      (lookup.hasConfig config.source = true) := by
  refine .get (.lift fun _ there => ?_)
  split
  · exact .throw
  · exact .set ⟨rfl, Validation.ensure_eq_ok.mp there⟩

/-- **The two ends of a call of a service's setter.** -/
theorem setting_assigns (setting : Setting) :
    (Setting.edit lookup setting).Assigns service (setting.change service)
      (setting.Checked lookup service) := by
  cases setting with
  | image reference => exact setImage_assigns reference
  | build given => exact setBuild_assigns given
  | port given => exact addPort_assigns given
  | mount given => exact addMount_assigns given
  | env key value => exact .lift fun _ _ => .modify ⟨rfl, trivial⟩
  | envFile path =>
    exact .get (.lift fun _ _ => .lift fun _ there => .set ⟨rfl, Validation.ensure_eq_ok.mp there⟩)
  | entrypoint given => exact .lift fun _ _ => .modify ⟨rfl, trivial⟩
  | command given => exact .lift fun _ _ => .modify ⟨rfl, trivial⟩
  | dependency other condition => exact addDependency_assigns other condition
  | dependencySpec spec => exact addDependencySpec_assigns spec
  | network name => exact addNetwork_assigns name
  | networkMode mode => exact setNetworkMode_assigns mode
  | user given => exact .lift fun _ _ => .lift fun _ _ => .modify ⟨rfl, trivial⟩
  | externalLink name => exact .lift fun _ _ => .lift fun _ _ => .modify ⟨rfl, trivial⟩
  | restart policy => exact .modify ⟨rfl, trivial⟩
  | logging given => exact .lift fun _ _ => .modify ⟨rfl, trivial⟩
  | healthcheck check => exact .modify ⟨rfl, trivial⟩
  | deploy given => exact .modify ⟨rfl, trivial⟩
  | securityOption given => exact .lift fun _ _ => .modify ⟨rfl, trivial⟩
  | secret name => exact .get (.lift fun _ there => .set ⟨rfl, Validation.ensure_eq_ok.mp there⟩)
  | config reference => exact addConfig_assigns reference

end Settling

/-- **No setter renames its service.** -/
theorem Setting.change_name (setting : Setting) (service : Service) :
    (setting.change service).name = service.name := by
  cases setting with
  | port given =>
    simp only [Setting.change]
    split <;> rfl
  | _ => rfl

end Service

/-! ### Networks -/

namespace Network

/-- The network after an accepted call. -/
def Setting.change (network : Network) : Setting → Network
  | .driver given => { network with driver := given }
  | .driverOption key value =>
    { network with driverOptions := network.driverOptions.insert key value }
  | .ipam given => { network with ipam := some given }
  | .internal isInternal => { network with isInternal := some isInternal }
  | .attachable isAttachable => { network with isAttachable := some isAttachable }
  | .ipv6 enablesIpv6 => { network with enablesIpv6 := some enablesIpv6 }
  | .external mark => { network with external := some mark }
  | .label key value => { network with labels := network.labels.insert key value }
  | .scope given => { network with scope := given }

/-- **The two ends of a call of a network's setter.** -/
theorem setting_assigns {network : Network} (setting : Setting) :
    setting.edit.Assigns network (setting.change network) True := by
  cases setting with
  | driver given => exact .get (.lift fun _ _ => .set ⟨rfl, trivial⟩)
  | driverOption key value => exact .get (.lift fun _ _ => .lift fun _ _ => .set ⟨rfl, trivial⟩)
  | ipam given => exact .get (.lift fun _ _ => .set ⟨rfl, trivial⟩)
  | internal isInternal => exact .get (.lift fun _ _ => .set ⟨rfl, trivial⟩)
  | attachable isAttachable => exact .get (.lift fun _ _ => .set ⟨rfl, trivial⟩)
  | ipv6 enablesIpv6 => exact .get (.lift fun _ _ => .set ⟨rfl, trivial⟩)
  | external mark =>
    refine .lift fun _ _ => .get ?_
    dsimp only
    split
    · exact .throw
    · exact .set ⟨rfl, trivial⟩
  | label key value => exact .get (.lift fun _ _ => .lift fun _ _ => .set ⟨rfl, trivial⟩)
  | scope given => exact .modify ⟨rfl, trivial⟩

/-- **No setter renames its network.** -/
theorem Setting.change_name (setting : Setting) (network : Network) :
    (setting.change network).name = network.name := by
  cases setting <;> rfl

end Network

/-! ### Volumes -/

namespace Volume

/-- The volume after an accepted call. -/
def Setting.change (volume : Volume) : Setting → Volume
  | .storage given => { volume with storage := given }
  | .tmpfs size => { volume with storage := .memory size }
  | .external mark => { volume with external := some mark }
  | .label key value => { volume with labels := volume.labels.insert key value }
  | .scope given => { volume with scope := given }
  | .accessMode mode => { volume with accessMode := mode }

/-- **The two ends of a call of a volume's setter.** -/
theorem setting_assigns {volume : Volume} (setting : Setting) :
    setting.edit.Assigns volume (setting.change volume) True := by
  cases setting with
  | storage given => exact .get (.lift fun _ _ => .lift fun _ _ => .set ⟨rfl, trivial⟩)
  | tmpfs size => exact .get (.lift fun _ _ => .lift fun _ _ => .set ⟨rfl, trivial⟩)
  | external mark =>
    refine .lift fun _ _ => .get ?_
    dsimp only
    split
    · exact .throw
    · exact .set ⟨rfl, trivial⟩
  | label key value => exact .get (.lift fun _ _ => .lift fun _ _ => .set ⟨rfl, trivial⟩)
  | scope given => exact .modify ⟨rfl, trivial⟩
  | accessMode mode => exact .modify ⟨rfl, trivial⟩

/-- **No setter renames its volume.** -/
theorem Setting.change_name (setting : Setting) (volume : Volume) :
    (setting.change volume).name = volume.name := by
  cases setting <;> rfl

end Volume

/-! ### Deployments -/

namespace Deployment

/-- The deployment after an accepted call. -/
def Setting.change (deployment : Deployment) : Setting → Deployment
  | .mode given => { deployment with mode := some given }
  | .replicas number => { deployment with replicas := some number }
  | .resources given => { deployment with resources := some given }
  | .restartPolicy policy => { deployment with restartPolicy := some policy }
  | .constraint text => { deployment with placement := deployment.placement ++ [text] }
  | .label key value => { deployment with labels := deployment.labels.insert key value }

/-- **The two ends of a call of a deployment's setter.** -/
theorem setting_assigns {deployment : Deployment} (setting : Setting) :
    setting.edit.Assigns deployment (setting.change deployment) True := by
  cases setting with
  | mode given =>
    refine .get ?_
    dsimp only
    split
    · exact .throw
    · exact .set ⟨rfl, trivial⟩
  | replicas number =>
    refine .get ?_
    dsimp only
    split
    · exact .throw
    · exact .set ⟨rfl, trivial⟩
  | resources given => exact .modify ⟨rfl, trivial⟩
  | restartPolicy policy => exact .lift fun _ _ => .modify ⟨rfl, trivial⟩
  | constraint text => exact .lift fun _ _ => .lift fun _ _ => .modify ⟨rfl, trivial⟩
  | label key value => exact .lift fun _ _ => .modify ⟨rfl, trivial⟩

end Deployment

/-! ### Stages of build scripts -/

namespace Script.Stage

/-- The stage after an accepted call. -/
def Setting.change (stage : Stage) : Setting → Stage
  | .isBase flag => { stage with isBase := flag }
  | .globalArg name value => { stage with globalArgs := stage.globalArgs.insert name value }
  | .base image knownAs => { stage with base := some ⟨image, knownAs⟩ }
  | .buildUser account => { stage with buildUser := some account }
  | .serviceUser account => { stage with serviceUser := some account }
  | .arg name value => { stage with args := stage.args.insert name value }
  | .env key value => { stage with environment := stage.environment.insert key value }
  | .port number protocol =>
    if stage.exposed.contains (number, protocol) then stage
    else { stage with exposed := stage.exposed ++ [(number, protocol)] }
  | .volume path =>
    if stage.volumes.contains path then stage
    else { stage with volumes := stage.volumes ++ [path] }
  | .workdir path => { stage with workdir := some path }
  | .copy files => { stage with copies := stage.copies ++ [files] }
  | .run line => { stage with runs := stage.runs ++ [line] }
  | .predefined given => { stage with predefined := stage.predefined ++ [given] }
  | .entrypoint given => { stage with entrypoint := some given }
  | .command given => { stage with command := some given }

/-- What an accepted call has found out about the text that it is given. -/
def Setting.Checked : Setting → Prop
  | .globalArg name value =>
    isVariableName name = true ∧ ∀ text ∈ value, Text.hasControl text = false
  | .base image knownAs =>
    Text.hasBlank image = false ∧ ∀ name ∈ knownAs, isEntityName name = true
  | .arg name value => isVariableName name = true ∧ ∀ text ∈ value, Text.hasControl text = false
  | .env key value => isVariableName key = true ∧ Text.hasControl value = false
  | .workdir path => Text.hasControl path = false
  | .run line => Text.hasControl line = false
  | .predefined given => given.validate = .ok ()
  | .entrypoint (.shell line) => Text.hasControl line = false
  | .command (.shell line) => Text.hasControl line = false
  | _ => True

section Settling

variable {stage : Stage}

theorem checkArgument_eq_ok {name : String} {value : Option String} {answer : Unit}
    (accepted : checkArgument name value = .ok answer) :
    isVariableName name = true ∧ ∀ text ∈ value, Text.hasControl text = false := by
  obtain ⟨_, named, accepted⟩ := Edit.bind_eq_ok.mp accepted
  refine ⟨Validation.ensure_eq_ok.mp named, fun text given => ?_⟩
  cases given
  exact Validation.singleLine_eq_ok.mp accepted

theorem oneLine_of_checkCommand {subject line : String} {answer : Unit}
    (accepted : checkCommand subject (.shell line) = .ok answer) :
    Text.hasControl line = false := by
  obtain ⟨_, _, accepted⟩ := Edit.bind_eq_ok.mp accepted
  exact Validation.singleLine_eq_ok.mp accepted

theorem setBase_assigns (image : String) (knownAs : Option String) :
    (setBase image knownAs).Assigns stage { stage with base := some ⟨image, knownAs⟩ }
      ((Setting.base image knownAs).Checked) := by
  cases knownAs with
  | none =>
    exact .lift fun _ unbroken => .get (.lift fun _ _ =>
      .set ⟨rfl, Validation.noBlank_of_token unbroken, nofun⟩)
  | some name =>
    refine .lift fun _ named => .lift fun _ unbroken => .get (.lift fun _ _ =>
      .set ⟨rfl, Validation.noBlank_of_token unbroken, fun other same => ?_⟩)
    cases same
    exact Validation.name_eq_ok.mp named

theorem addPort_assigns (port : Nat) (protocol : Protocol) :
    (addPort port protocol).Assigns stage ((Setting.port port protocol).change stage) True := by
  refine .lift fun _ _ => .get ?_
  simp only [Setting.change]
  split
  · exact .pure ⟨rfl, trivial⟩
  · exact .set ⟨rfl, trivial⟩

theorem addVolume_assigns (path : String) :
    (addVolume path).Assigns stage ((Setting.volume path).change stage) True := by
  refine .lift fun _ _ => .lift fun _ _ => .get ?_
  simp only [Setting.change]
  split
  · exact .pure ⟨rfl, trivial⟩
  · exact .set ⟨rfl, trivial⟩

theorem setEntrypoint_assigns (command : Command) :
    (setEntrypoint command).Assigns stage { stage with entrypoint := some command }
      (Setting.entrypoint command).Checked := by
  refine .lift fun _ checked => .get (.lift fun _ _ => .set ⟨rfl, ?_⟩)
  cases command with
  | shell line => exact oneLine_of_checkCommand checked
  | exec words => trivial

theorem setCommand_assigns (command : Command) :
    (setCommand command).Assigns stage { stage with command := some command }
      (Setting.command command).Checked := by
  refine .lift fun _ checked => .get (.lift fun _ _ => .set ⟨rfl, ?_⟩)
  cases command with
  | shell line => exact oneLine_of_checkCommand checked
  | exec words => trivial

/-- **The two ends of a call of a stage's setter.** -/
theorem setting_assigns (setting : Setting) :
    setting.edit.Assigns stage (setting.change stage) setting.Checked := by
  cases setting with
  | isBase flag => exact .modify ⟨rfl, trivial⟩
  | globalArg name value =>
    exact .lift fun _ checked => .modify ⟨rfl, checkArgument_eq_ok checked⟩
  | base image knownAs => exact setBase_assigns image knownAs
  | buildUser account => exact .modify ⟨rfl, trivial⟩
  | serviceUser account => exact .modify ⟨rfl, trivial⟩
  | arg name value => exact .lift fun _ checked => .modify ⟨rfl, checkArgument_eq_ok checked⟩
  | env key value =>
    exact .lift fun _ named => .lift fun _ unbroken => .modify
      ⟨rfl, Validation.ensure_eq_ok.mp named, Validation.singleLine_eq_ok.mp unbroken⟩
  | port number protocol => exact addPort_assigns number protocol
  | volume path => exact addVolume_assigns path
  | workdir path =>
    exact .lift fun _ _ => .lift fun _ unbroken =>
      .modify ⟨rfl, Validation.singleLine_eq_ok.mp unbroken⟩
  | copy files => exact .modify ⟨rfl, trivial⟩
  | run line =>
    exact .lift fun _ _ => .lift fun _ unbroken =>
      .modify ⟨rfl, Validation.singleLine_eq_ok.mp unbroken⟩
  | predefined given => exact .lift fun _ valid => .get (.lift fun _ _ => .set ⟨rfl, valid⟩)
  | entrypoint given => exact setEntrypoint_assigns given
  | command given => exact setCommand_assigns given

end Settling

/-- **No setter renames its stage.** -/
theorem Setting.change_name (setting : Setting) (stage : Stage) :
    (setting.change stage).name = stage.name := by
  cases setting with
  | port number protocol =>
    simp only [Setting.change]
    split <;> rfl
  | volume path =>
    simp only [Setting.change]
    split <;> rfl
  | _ => rfl

end Script.Stage

end ContainerStack
