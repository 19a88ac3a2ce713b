import ContainerStack.Proofs.Steps
import ContainerStack.Script.Stage
import ContainerStack.Service
import ContainerStack.Volume
import ContainerStack.Network

/-!
**The setters of every entity, as data.**

An entity is changed by calls of its setters. For each kind of entity a `Setting` is one call with
its arguments, and `Setting.edit` is what it does. A setter of a service that names something else
is called with a lookup, which may be any.

* `Service.Calls`, `Network.Calls`, …: the edits that are one call of a setter.
* `Service.applySpec_through_made`: a definition of a service is applied by calls with its own
  lookup, and its build is made with that lookup, its ports and its deployment of definitions.
* `Network.applySpec_through_made`: the same for networks, whose address management is made of a
  definition; `Volume.applySpec_through`: the same for volumes.
-/

namespace ContainerStack

/-! ### Services -/

namespace Service

/-- One call of a setter of a service. -/
inductive Setting where
  | image (image : String)
  | build (build : Build)
  | port (port : PortMapping)
  | mount (mount : Mount)
  | env (key value : String)
  | envFile (path : String)
  | entrypoint (entrypoint : Command)
  | command (command : Command)
  | dependency (other : String) (condition : Option DependencyCondition)
  | dependencySpec (spec : Dependency.Spec)
  | network (network : String)
  | networkMode (mode : NetworkMode)
  | user (user : String)
  | externalLink (link : String)
  | restart (policy : RestartPolicy)
  | logging (logging : Logging)
  | healthcheck (check : Healthcheck)
  | deploy (deploy : Deployment)
  | securityOption (option : String)
  | secret (secret : String)
  | config (config : ConfigReference)

/-- What a call does, given the lookup that it comes with. -/
def Setting.edit (lookup : EntityLookup) : Setting → Edit Service Unit
  | .image reference => setImage reference
  | .build given => setBuild given
  | .port given => addPort given
  | .mount given => addMount given lookup
  | .env key value => setEnv key value
  | .envFile path => addEnvFile path lookup
  | .entrypoint given => setEntrypoint given
  | .command given => setCommand given
  | .dependency other condition => addDependency other condition lookup
  | .dependencySpec spec => addDependencySpec spec lookup
  | .network name => addNetwork name lookup
  | .networkMode mode => setNetworkMode mode lookup
  | .user given => setUser given
  | .externalLink link => addExternalLink link
  | .restart policy => setRestart policy
  | .logging given => setLogging given
  | .healthcheck check => setHealthcheck check
  | .deploy given => setDeploy given
  | .securityOption option => addSecurityOption option
  | .secret name => addSecret name lookup
  | .config reference => addConfig reference lookup

/-- The calls of setters whose lookup is admitted. -/
def Calls (admitted : EntityLookup → Prop) (edit : Edit Service Unit) : Prop :=
  ∃ lookup setting, admitted lookup ∧ edit = Setting.edit lookup setting

/-- The calls of setters with whatever lookup. -/
abbrev AnyCalls : Edit Service Unit → Prop := Calls fun _ => True

theorem Calls.any {admitted : EntityLookup → Prop} {edit : Edit Service Unit}
    (call : Calls admitted edit) : AnyCalls edit := by
  obtain ⟨lookup, setting, _, same⟩ := call
  exact ⟨lookup, setting, trivial, same⟩

section Definition

variable {lookup : EntityLookup}

theorem through_setting (setting : Setting) :
    (Setting.edit lookup setting).Through (Calls (· = lookup)) :=
  .of_move ⟨lookup, setting, rfl, rfl⟩

/-- A call that a definition can lead to: the build that it gives was made with the lookup of the
definition, and the port or the deployment that it gives was made of one. -/
def Setting.Made (lookup : EntityLookup) : Setting → Prop
  | .build given => ∃ spec, Build.ofSpec spec lookup = .ok given
  | .port given => ∃ spec, PortMapping.ofSpec spec = .ok given
  | .deploy given => ∃ spec, Deployment.ofSpec spec = .ok given
  | _ => True

/-- **A definition is applied by calls of setters**, all with the lookup that it is given, under
which its build is made, and with the ports and the deployment that it describes. -/
theorem applySpec_through_made {moves : Edit Service Unit → Prop}
    (each : ∀ setting : Setting, setting.Made lookup → moves (Setting.edit lookup setting))
    (spec : Spec) : (applySpec spec lookup).Through moves := by
  have through (setting : Setting) (made : setting.Made lookup) :
      (Setting.edit lookup setting).Through moves := .of_move (each setting made)
  refine .bind (.forM_option (fun image => through (.image image) trivial) _) fun _ => ?_
  refine .bind (.forM_option (fun spec => .read_bind fun build made =>
    through (.build build) ⟨spec, made⟩) _) fun _ => ?_
  refine .bind (.forM_list (fun spec => .read_bind fun port made =>
    through (.port port) ⟨spec, made⟩) _) fun _ => ?_
  refine .bind (.forM_list (fun mount => .lift_bind _ fun mount =>
    through (.mount mount) trivial) _) fun _ => ?_
  refine .bind (.forM_list (fun (key, value) => through (.env key value) trivial) _) fun _ => ?_
  refine .bind (.forM_list (fun path => through (.envFile path) trivial) _) fun _ => ?_
  refine .bind (.forM_option (fun entry => through (.entrypoint entry) trivial) _) fun _ => ?_
  refine .bind (.forM_option (fun command => through (.command command) trivial) _) fun _ => ?_
  refine .bind (.forM_list (fun spec => through (.dependencySpec spec) trivial) _) fun _ => ?_
  refine .bind (.forM_list (fun network => through (.network network) trivial) _) fun _ => ?_
  refine .bind (.forM_option (fun mode => .lift_bind _ fun mode =>
    through (.networkMode mode) trivial) _) fun _ => ?_
  refine .bind (.forM_option (fun user => through (.user user) trivial) _) fun _ => ?_
  refine .bind (.forM_option (fun restart => .lift_bind _ fun policy =>
    through (.restart policy) trivial) _) fun _ => ?_
  refine .bind (.forM_option (fun logging => .lift_bind _ fun logging =>
    through (.logging logging) trivial) _) fun _ => ?_
  refine .bind (.forM_option (fun check => .lift_bind _ fun check =>
    through (.healthcheck check) trivial) _) fun _ => ?_
  refine .bind (.forM_list (fun link => through (.externalLink link) trivial) _) fun _ => ?_
  refine .bind (.forM_list (fun secret => through (.secret secret) trivial) _) fun _ => ?_
  refine .bind (.forM_list (fun config => .lift_bind _ fun config =>
    through (.config config) trivial) _) fun _ => ?_
  refine .bind (.forM_option (fun spec => .read_bind fun deploy made =>
    through (.deploy deploy) ⟨spec, made⟩) _) fun _ => ?_
  exact .forM_list (fun option => through (.securityOption option) trivial) _

theorem applySpec_through (spec : Spec) : (applySpec spec lookup).Through (Calls (· = lookup)) :=
  applySpec_through_made (fun setting _ => ⟨lookup, setting, rfl, rfl⟩) spec

end Definition

end Service

/-! ### Networks -/

namespace Network

/-- One call of a setter of a network. -/
inductive Setting where
  | driver (driver : NetworkDriver)
  | driverOption (key value : String)
  | ipam (ipam : Ipam)
  | internal (isInternal : Bool)
  | attachable (isAttachable : Bool)
  | ipv6 (enablesIpv6 : Bool)
  | external (external : External)
  | label (key value : String)
  | scope (scope : Scope)

/-- What a call does. -/
def Setting.edit : Setting → Edit Network Unit
  | .driver given => setDriver given
  | .driverOption key value => setDriverOption key value
  | .ipam given => setIpam given
  | .internal isInternal => setInternal isInternal
  | .attachable isAttachable => setAttachable isAttachable
  | .ipv6 enablesIpv6 => setIpv6 enablesIpv6
  | .external mark => setExternal mark
  | .label key value => addLabel key value
  | .scope given => setScope given

/-- The calls of setters. -/
def Calls (edit : Edit Network Unit) : Prop := ∃ setting : Setting, edit = setting.edit

/-- A call that a definition can lead to: the address management that it gives was made of one. -/
def Setting.Made : Setting → Prop
  | .ipam given => ∃ spec, Ipam.ofSpec spec = .ok given
  | _ => True

/-- **A definition is applied by calls of setters**, with the address management that it
describes. -/
theorem applySpec_through_made {moves : Edit Network Unit → Prop}
    (each : ∀ setting : Setting, setting.Made → moves setting.edit) (spec : Spec) :
    (applySpec spec).Through moves := by
  have through (setting : Setting) (made : setting.Made) : setting.edit.Through moves :=
    .of_move (each setting made)
  refine .bind (.forM_option (fun external => through (.external external) trivial) _) fun _ => ?_
  refine .bind (.forM_option (fun driver => .lift_bind _ fun driver =>
    through (.driver driver) trivial) _) fun _ => ?_
  refine .bind (.forM_list (fun (key, value) =>
    through (.driverOption key value) trivial) _) fun _ => ?_
  refine .bind (.forM_option (fun spec => .read_bind fun ipam made =>
    through (.ipam ipam) ⟨spec, made⟩) _) fun _ => ?_
  refine .bind (.forM_option (fun flag => through (.internal flag) trivial) _) fun _ => ?_
  refine .bind (.forM_option (fun flag => through (.attachable flag) trivial) _) fun _ => ?_
  refine .bind (.forM_option (fun flag => through (.ipv6 flag) trivial) _) fun _ => ?_
  refine .bind (.forM_list (fun (key, value) => through (.label key value) trivial) _) fun _ => ?_
  exact .forM_option (fun scope => .lift_bind _ fun scope => through (.scope scope) trivial) _

theorem applySpec_through (spec : Spec) : (applySpec spec).Through Calls :=
  applySpec_through_made (fun setting _ => ⟨setting, rfl⟩) spec

end Network

/-! ### Volumes -/

namespace Volume

/-- One call of a setter of a volume. -/
inductive Setting where
  | storage (storage : VolumeStorage)
  | tmpfs (size : Option String)
  | external (external : External)
  | label (key value : String)
  | scope (scope : Scope)
  | accessMode (mode : AccessMode)

/-- What a call does. -/
def Setting.edit : Setting → Edit Volume Unit
  | .storage given => setStorage given
  | .tmpfs size => setTmpfs size
  | .external mark => setExternal mark
  | .label key value => addLabel key value
  | .scope given => setScope given
  | .accessMode mode => setAccessMode mode

/-- The calls of setters. -/
def Calls (edit : Edit Volume Unit) : Prop := ∃ setting : Setting, edit = setting.edit

theorem through_setting (setting : Setting) : setting.edit.Through Calls :=
  .of_move ⟨setting, rfl⟩

/-- **A definition is applied by calls of setters.** -/
theorem applySpec_through (spec : Spec) : (applySpec spec).Through Calls := by
  refine .bind (.forM_option (fun external => through_setting (.external external)) _) fun _ => ?_
  refine .lift_bind _ fun storage => ?_
  refine .bind (.forM_option (fun storage => through_setting (.storage storage)) _) fun _ => ?_
  refine .bind (.forM_list (fun (key, value) => through_setting (.label key value)) _) fun _ => ?_
  refine .bind (.forM_option (fun scope => .lift_bind _ fun scope =>
    through_setting (.scope scope)) _) fun _ => ?_
  exact .forM_option (fun mode => .lift_bind _ fun mode => through_setting (.accessMode mode)) _

end Volume

/-! ### Deployments -/

namespace Deployment

/-- One call of a setter of a deployment. -/
inductive Setting where
  | mode (mode : DeployMode)
  | replicas (replicas : Nat)
  | resources (resources : Resources)
  | restartPolicy (policy : TaskRestart)
  | constraint (constraint : String)
  | label (key value : String)

/-- What a call does. -/
def Setting.edit : Setting → Edit Deployment Unit
  | .mode given => setMode given
  | .replicas number => setReplicas number
  | .resources given => setResources given
  | .restartPolicy policy => setRestartPolicy policy
  | .constraint text => addConstraint text
  | .label key value => addLabel key value

end Deployment

/-! ### Stages of build scripts -/

namespace Script.Stage

/-- One call of a setter of a stage. -/
inductive Setting where
  | isBase (isBase : Bool)
  | globalArg (name : String) (value : Option String)
  | base (image : String) (knownAs : Option String)
  | buildUser (account : Account)
  | serviceUser (account : Account)
  | arg (name : String) (value : Option String)
  | env (key value : String)
  | port (port : Nat) (protocol : Protocol)
  | volume (path : String)
  | workdir (path : String)
  | copy (files : FileCopy)
  | run (command : String)
  | predefined (command : Predefined)
  | entrypoint (command : Command)
  | command (command : Command)

/-- What a call does. -/
def Setting.edit : Setting → Edit Stage Unit
  | .isBase flag => setIsBase flag
  | .globalArg name value => setGlobalArg name value
  | .base image knownAs => setBase image knownAs
  | .buildUser account => setBuildUser account
  | .serviceUser account => setServiceUser account
  | .arg name value => setArg name value
  | .env key value => setEnv key value
  | .port number protocol => addPort number protocol
  | .volume path => addVolume path
  | .workdir path => setWorkdir path
  | .copy files => addCopy files
  | .run line => addRun line
  | .predefined given => addPredefined given
  | .entrypoint given => setEntrypoint given
  | .command given => setCommand given

end Script.Stage

end ContainerStack
