import ContainerStack.Stack
import ContainerStack.Yaml.Emitter

/-!
**The manifest of a stack.**

The manifest is a YAML document with the sections services, volumes, networks, secrets and configs,
in this order; a section without entries is left out. It is built as nested steps of an emitter, so
that its layout and its content are separate.

* `Manifest.steps`: the steps that write a stack, or the fault that stands in the way.
* `Stack.renderManifest`: the text of the manifest, as a rendering of the stack.
-/

namespace ContainerStack

namespace Manifest

open Yaml (Step)

/-! ### Services -/

/-- The build of a service: its context alone, or a block. -/
def buildSteps (build : Build) : List Step :=
  if build.isPlain then [.scalar "build" build.context]
  else
    [.block "build"
      (.scalar "context" build.context :: Step.scalarIfSome "dockerfile" build.dockerfile ++
        Step.scalarIfSome "target" build.target ++ Step.mapBlock "args" build.args.toList ++
        Step.itemsBlock "ssh" (build.ssh.toList.map fun (id, path) => id ++ "=" ++ path))]

/-- Where the image of a service comes from, which has to be set. -/
def sourceSteps (service : Service) : Except Fault (List Step) :=
  match service.source with
  | some (.image image) => .ok [.scalar "image" image]
  | some (.build build) => .ok (buildSteps build)
  | none => .error (.missing service.owner "image or build")

/-- A command under a key. -/
def commandSteps (key : String) : Option Command → List Step
  | some (.shell line) => [.scalar key line]
  | some (.exec words) => [.raw key (Yaml.Scalar.flowList words)]
  | none => []

/-- The restart policy: its word, or a block with the number of attempts. -/
def restartSteps : Option RestartPolicy → List Step
  | some (.onFailure times) =>
    [.block "restart" [.scalar "policy" (RestartPolicy.onFailure times).word,
      .raw "times" (toString times)]]
  | some policy => [.scalar "restart" policy.word]
  | none => []

/-- The dependencies: a list, or a block with conditions as soon as one is set. -/
def dependencySteps (dependsOn : OrderedMap (Option DependencyCondition)) : List Step :=
  if dependsOn.values.any Option.isSome then
    [.block "depends_on"
      (dependsOn.toList.map fun (name, condition) =>
        .block name [.raw "condition" (condition.getD .started).word])]
  else Step.itemsBlock "depends_on" dependsOn.keys

/-- The variables of a service: those of the stack, with the service's values in their places, and
then its own. -/
def mergedEnvironment (stack : Stack) (service : Service) : OrderedMap String :=
  stack.environment.merge service.environment

/-- The files of variables of a service: its own, then those of the stack that it does not list. -/
def mergedEnvFiles (stack : Stack) (service : Service) : List String :=
  (service.envFiles ++ stack.envFiles).foldl Service.appendNew []

/-- The ports of a service: the published ones, then those for other services only. -/
def portSteps (ports : List PortMapping) : List Step :=
  let published := ports.filter fun port => !port.isInternalOnly
  let exposed := ports.filter PortMapping.isInternalOnly
  Step.blockUnlessEmpty "ports" (published.map fun port =>
      .quotedItem (toString (port.hostPort.getD port.internal) ++ ":" ++ toString port.internal)) ++
    Step.blockUnlessEmpty "expose" (exposed.map fun port => .quotedItem (toString port.internal))

/-- One mount as a line. A volume of the stack is mounted in its own mode unless the mount sets
one. -/
def mountLine (stack : Stack) (service : Service) : Mount → Except Fault String
  | .anonymous path => .ok path
  | .named name path (some mode) => .ok (name ++ ":" ++ path ++ ":" ++ mode.word)
  | .named name path none =>
    match stack.volumes.get? name with
    | some volume => .ok (name ++ ":" ++ path ++ ":" ++ volume.accessMode.word)
    | none => .error (.dangling service.owner .volume name)
  | .bind hostPath path mode => .ok (hostPath ++ ":" ++ path ++ ":" ++ mode.word)

/-- The mounts of a service. -/
def mountSteps (stack : Stack) (service : Service) : Except Fault (List Step) := do
  let lines ← service.mounts.mapM (mountLine stack service)
  return Step.itemsBlock "volumes" lines

/-- The networks that a service joins, or its network mode. -/
def networkSteps (service : Service) : List Step :=
  if service.networks.isEmpty then
    Step.scalarIfSome "network_mode" (service.networkMode.map NetworkMode.text)
  else Step.itemsBlock "networks" service.networks

/-- One config of a service. -/
def configSteps (config : ConfigReference) : Step :=
  .itemBlock (.scalar "source" config.source :: Step.scalarIfSome "target" config.target ++
    match config.mode with
    | some mode => [.comment ("mode " ++ mode.octal ++ ": " ++ mode.description),
      .raw "mode" mode.octal]
    | none => [])

/-- The settings of a health check, or that it is turned off. -/
def healthcheckBody (check : Healthcheck) : List Step :=
  if check.isDisabled then [.raw "disable" "true"]
  else
    Step.rawIfSome "test" (check.testWords.map Yaml.Scalar.flowList) ++
      Step.scalarIfSome "interval" check.interval ++
      Step.scalarIfSome "timeout" check.timeout ++
      Step.rawIfSome "retries" (check.retries.map toString) ++
      Step.scalarIfSome "start_period" check.startPeriod

/-- The health check of a service. -/
def healthcheckSteps (check : Option Healthcheck) : List Step :=
  Step.blockIfSome "healthcheck" healthcheckBody check

/-- The logging of a service. -/
def loggingSteps : Option Logging → List Step
  | none => []
  | some logging =>
    [.block "logging"
      (.scalar "driver" logging.driver.word ::
        Step.blockUnlessEmpty "options"
          (logging.options.toList.map fun (key, value) => .quoted key value))]

/-- The amounts that are given. -/
def amountBody (amounts : Amounts) : List Step :=
  Step.quotedIfSome "cpus" amounts.cpus ++ Step.scalarIfSome "memory" amounts.memory

/-- Amounts under a key, unless none is given. -/
def amountSteps (key : String) (amounts : Option Amounts) : List Step :=
  Step.blockIfSome key amountBody (amounts.filter fun given => !given.isEmpty)

/-- The limits and the reservations of a deployment. -/
def resourceBody (resources : Resources) : List Step :=
  amountSteps "limits" resources.limits ++ amountSteps "reservations" resources.reservations

/-- The resources of a deployment. -/
def resourceSteps (resources : Option Resources) : List Step :=
  Step.blockIfSome "resources" resourceBody resources

/-- The settings of a restart policy. -/
def taskRestartBody (policy : TaskRestart) : List Step :=
  Step.rawIfSome "condition" (policy.condition.map RestartCondition.word) ++
    Step.scalarIfSome "delay" policy.delay ++
    Step.rawIfSome "max_attempts" (policy.maxAttempts.map toString) ++
    Step.scalarIfSome "window" policy.window

/-- The restart policy of a deployment. -/
def taskRestartSteps (policy : Option TaskRestart) : List Step :=
  Step.blockIfSome "restart_policy" taskRestartBody policy

/-- The conditions on the machines of a deployment. -/
def placementSteps (constraints : List String) : List Step :=
  if constraints.isEmpty then []
  else [.block "placement" [.block "constraints" (constraints.map .item)]]

/-- The settings of a deployment. -/
def deployBody (deploy : Deployment) : List Step :=
  Step.rawIfSome "mode" (deploy.mode.map DeployMode.word) ++
    Step.rawIfSome "replicas" (deploy.replicas.map toString) ++
    resourceSteps deploy.shownResources ++ taskRestartSteps deploy.shownRestartPolicy ++
    placementSteps deploy.placement ++ Step.mapBlock "labels" deploy.labels.toList

/-- The deployment of a service, unless it sets nothing. -/
def deploySteps (deploy : Option Deployment) : List Step :=
  Step.blockIfSome "deploy" deployBody (deploy.filter fun given => !given.isEmpty)

/-- A service under its name. -/
def serviceSteps (stack : Stack) (service : Service) : Except Fault Step := do
  let source ← sourceSteps service
  let mounts ← mountSteps stack service
  return .block service.name
    (source ++ Step.quotedIfSome "user" service.user ++
      commandSteps "entrypoint" service.entrypoint ++ commandSteps "command" service.command ++
      restartSteps service.restart ++ dependencySteps service.dependsOn ++
      Step.mapBlock "environment" (mergedEnvironment stack service).toList ++
      Step.itemsBlock "env_file" (mergedEnvFiles stack service) ++
      portSteps service.ports ++ mounts ++ networkSteps service ++
      Step.itemsBlock "external_links" service.externalLinks ++
      Step.itemsBlock "secrets" service.secrets ++
      Step.blockUnlessEmpty "configs" (service.configs.map configSteps) ++
      healthcheckSteps service.healthcheck ++ loggingSteps service.logging ++
      deploySteps service.deploy ++ Step.itemsBlock "security_opt" service.securityOptions)

/-! ### Other entities -/

/-- The mark of an entity that is managed outside the stack. -/
def externalSteps : External → List Step
  | .named name => [.scalar "name" name, .raw "external" "true"]
  | .flag _ => [.raw "external" "true"]

/-- The driver of a volume with its options. -/
def storageSteps : Option VolumeStorage → List Step
  | none => []
  | some storage =>
    .scalar "driver" storage.driver.engineWord ::
      Step.blockUnlessEmpty "driver_opts"
        (storage.engineOptions.map fun (key, value) => .quoted key value)

/-- The settings of a volume, or the mark of one that is managed outside the stack. -/
def volumeBody (volume : Volume) : List Step :=
  match volume.shownExternal with
  | some external => externalSteps external
  | none => storageSteps volume.shownStorage ++ Step.mapBlock "labels" volume.labels.toList

/-- A volume under its name; a volume that sets nothing is its name alone. -/
def volumeSteps (volume : Volume) : Step :=
  if volume.shownExternal.isNone && volume.shownStorage.isNone && volume.labels.isEmpty then
    .key volume.name
  else .block volume.name (volumeBody volume)

/-- One address pool. -/
def poolSteps (pool : IpamPool) : Step :=
  .itemBlock (.scalar "subnet" pool.subnet :: Step.scalarIfSome "gateway" pool.gateway ++
    Step.scalarIfSome "ip_range" pool.ipRange ++
    Step.mapBlock "aux_addresses" pool.auxAddresses.toList)

/-- The settings of address management. -/
def ipamBody (ipam : Ipam) : List Step :=
  Step.scalarIfSome "driver" ipam.driver ++
    Step.blockUnlessEmpty "config" (ipam.pools.map poolSteps)

/-- The address management of a network. -/
def ipamSteps (ipam : Option Ipam) : List Step := Step.blockIfSome "ipam" ipamBody ipam

/-- A flag under a key, if it is set. -/
def flagSteps (key : String) (flag : Option Bool) : List Step :=
  Step.rawIfSome key (flag.map fun isSet => if isSet then "true" else "false")

/-- A network under its name. -/
def networkEntrySteps (network : Network) : Step :=
  .block network.name
    (match network.shownExternal with
    | some external => externalSteps external
    | none =>
      .raw "driver" network.driver.word ::
        (Step.mapBlock "driver_opts" network.driverOptions.toList ++
          ipamSteps network.shownIpam ++ flagSteps "internal" network.isInternal ++
          flagSteps "attachable" network.isAttachable ++
          flagSteps "enable_ipv6" network.enablesIpv6 ++
          Step.mapBlock "labels" network.labels.toList))

/-- A secret under its name. -/
def secretSteps (secret : Secret) : Step :=
  .block secret.name
    (match secret.source with
    | .file path => [.scalar "file" path]
    | .external => [.raw "external" "true"])

/-- A config under its name. -/
def configEntrySteps (config : ConfigFile) : Step :=
  .block config.name [.scalar "file" config.file]

/-! ### The whole document -/

/-- The steps that write a stack. -/
def steps (stack : Stack) : Except Fault (List Step) :=
  if stack.services.isEmpty then .error (.obstructed (.noServices stack.name))
  else do
    let services ← stack.renderOrder.mapM (serviceSteps stack)
    return .block "services" services ::
      (Step.blockUnlessEmpty "volumes" (stack.volumes.toList.map volumeSteps) ++
        Step.blockUnlessEmpty "networks" (stack.networks.toList.map networkEntrySteps) ++
        Step.blockUnlessEmpty "secrets" (stack.secrets.toList.map secretSteps) ++
        Step.blockUnlessEmpty "configs" (stack.configs.toList.map configEntrySteps))

/-- The text of the manifest of a stack. -/
def text (stack : Stack) : Except Fault String := do
  let written ← steps stack
  Step.render written

end Manifest

namespace Stack

/-- Renders the manifest. -/
def renderManifest : Edit Stack String := do
  let stack ← get
  RenderPhase.guarded Stack.phase (fun phase stack => { stack with phase := phase })
    ("manifest of " ++ stack.owner) (Manifest.text stack : Except Fault String)

/-- Renders the manifest and hands it to a writer, which may refuse it. -/
def writeManifest {α : Type} (write : String → Except Fault α) : Edit Stack α := do
  let manifest ← renderManifest
  write manifest

end Stack

end ContainerStack
