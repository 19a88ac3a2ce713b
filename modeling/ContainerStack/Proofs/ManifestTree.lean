import ContainerStack.Proofs.Fields
import ContainerStack.Proofs.Integrity

/-!
**The tree that a manifest stands for.**

The tree of a stack is written down here from its fields alone, without steps, lines or quotes and
without what the rendering makes of the fields: which keys there are, in which order, and which
stored text stands under each of them. The manifest is read as that tree, whatever the stored text
is, by the rules of `Reading`: block maps and sequences nested by indentation, comments, and scalars
on one line. What YAML says about long keys, unprintable characters and the marks of tags, anchors
and documents is left aside.

* `Manifest.serviceTree`, `Manifest.volumeTree`, …: the trees of single entities.
* `Manifest.ownOrShared`: the variables of a service. `Manifest.engineFields`: the options of a
  volume as the engine has them.
* `Stack.mainFirst`: the services in the order of the tree. `Stack.tree`: the tree of a stack.
-/

namespace ContainerStack

open Yaml (Tree Field)

namespace Manifest

/-! ### Trees of services -/

/-- A build: its context alone if there is nothing else, or its fields. -/
def buildTree (build : Build) : Tree :=
  if build.dockerfile = none ∧ build.target = none ∧ build.args.toList = [] ∧ build.ssh.toList = []
  then .text build.context
  else .ofFields
    [("context", some (.text build.context)),
      ("dockerfile", build.dockerfile.map .text),
      ("target", build.target.map .text),
      ("args", Tree.pairs? build.args.toList),
      ("ssh", Tree.texts? (build.ssh.toList.map fun (id, path) => id ++ "=" ++ path))]

/-- The image that a service pulls. -/
def imageTree? : Option ImageSource → Option Tree
  | some (.image image) => some (.text image)
  | _ => none

/-- The build of a service. -/
def buildTree? : Option ImageSource → Option Tree
  | some (.build build) => some (buildTree build)
  | _ => none

/-- A command: a line, or a list of words. -/
def commandTree : Command → Tree
  | .shell line => .text line
  | .exec words => .sequence (words.map .text)

/-- A restart policy: its word, or the word and the number of attempts. -/
def restartTree : RestartPolicy → Tree
  | .onFailure times => .ofFields
    [("policy", some (.text "on-failure")), ("times", some (.text (toString times)))]
  | policy => .text policy.word

/-- The dependencies: a list of names, or conditions under names as soon as one is set. -/
def dependencyTree? (dependsOn : OrderedMap (Option DependencyCondition)) : Option Tree :=
  if dependsOn.values.any Option.isSome then
    Tree.record? (dependsOn.toList.map fun (name, condition) =>
      (name, .ofFields [("condition", some (.text (condition.getD .started).word))]))
  else Tree.texts? dependsOn.keys

/-- The variables of a service: the shared ones in their order, with its own values where it has
them, and then those that it alone has. -/
def ownOrShared (shared own : OrderedMap String) : List (String × String) :=
  (shared.toList.map fun (key, value) => (key, (own.get? key).getD value)) ++
    own.toList.filter fun (key, _) => key ∉ shared.keys

/-- A published port: its number on the host and its own. -/
def portText (port : PortMapping) : String :=
  toString (port.external.getD port.internal) ++ ":" ++ toString port.internal

/-- A mount. A volume of the stack is mounted in its own mode unless the mount sets one. -/
def mountText (stack : Stack) : Mount → String
  | .anonymous path => path
  | .named name path mode =>
    let ownMode := ((stack.volumes.get? name).map Volume.accessMode).getD .readWrite
    name ++ ":" ++ path ++ ":" ++ (mode.getD ownMode).word
  | .bind hostPath path mode => hostPath ++ ":" ++ path ++ ":" ++ mode.word

/-- A network mode, with the service or the container that it points at. -/
def networkModeText : NetworkMode → String
  | .bridge => "bridge"
  | .host => "host"
  | .none => "none"
  | .service name => "service:" ++ name
  | .container id => "container:" ++ id

/-- A config that a service mounts. -/
def configReferenceTree (config : ConfigReference) : Tree := .ofFields
  [("source", some (.text config.source)),
    ("target", config.target.map .text),
    ("mode", config.mode.map fun mode => .text mode.octal)]

/-- The command of a health check, marked as words or as a line. -/
def testTree : Command → Tree
  | .exec words => .sequence (.text "CMD" :: words.map .text)
  | .shell line => .sequence [.text "CMD-SHELL", .text line]

/-- A health check. -/
def healthcheckTree (check : Healthcheck) : Tree :=
  if check.isDisabled then .ofFields [("disable", some (.text "true"))]
  else .ofFields
    [("test", check.test.map testTree),
      ("interval", check.interval.map .text),
      ("timeout", check.timeout.map .text),
      ("retries", check.retries.map fun retries => .text (toString retries)),
      ("start_period", check.startPeriod.map .text)]

/-- Logging. -/
def loggingTree (logging : Logging) : Tree := .ofFields
  [("driver", some (.text logging.driver.word)),
    ("options", Tree.pairs? logging.options.toList)]

/-- Amounts of processors and memory, if one of them is given. -/
def amountTree? (amounts : Option Amounts) : Option Tree :=
  amounts.bind fun given => Tree.fields?
    [("cpus", given.cpus.map .text), ("memory", given.memory.map .text)]

/-- The resources of a deployment, if an amount is given. -/
def resourceTree? (resources : Resources) : Option Tree := Tree.fields?
  [("limits", amountTree? resources.limits),
    ("reservations", amountTree? resources.reservations)]

/-- The restart policy of a deployment, if it sets anything. -/
def taskRestartTree? (policy : TaskRestart) : Option Tree := Tree.fields?
  [("condition", policy.condition.map fun condition => .text condition.word),
    ("delay", policy.delay.map .text),
    ("max_attempts", policy.maxAttempts.map fun attempts => .text (toString attempts)),
    ("window", policy.window.map .text)]

/-- The deployment of a service, if it sets anything. -/
def deployTree? (deploy : Deployment) : Option Tree := Tree.fields?
  [("mode", deploy.mode.map fun mode => .text mode.word),
    ("replicas", deploy.replicas.map fun replicas => .text (toString replicas)),
    ("resources", deploy.resources.bind resourceTree?),
    ("restart_policy", deploy.restartPolicy.bind taskRestartTree?),
    ("placement", Tree.fields? [("constraints", Tree.texts? deploy.placement)]),
    ("labels", Tree.pairs? deploy.labels.toList)]

/-- A service. -/
def serviceTree (stack : Stack) (service : Service) : Tree := .ofFields
  [("image", imageTree? service.source),
    ("build", buildTree? service.source),
    ("user", service.user.map .text),
    ("entrypoint", service.entrypoint.map commandTree),
    ("command", service.command.map commandTree),
    ("restart", service.restart.map restartTree),
    ("depends_on", dependencyTree? service.dependsOn),
    ("environment", Tree.pairs? (ownOrShared stack.environment service.environment)),
    ("env_file", Tree.texts? (service.envFiles ++ stack.envFiles).eraseDups),
    ("ports", Tree.texts? ((service.ports.filter fun port => !port.isInternalOnly).map portText)),
    ("expose", Tree.texts? ((service.ports.filter PortMapping.isInternalOnly).map fun port =>
      toString port.internal)),
    ("volumes", Tree.texts? (service.mounts.map (mountText stack))),
    ("networks", Tree.texts? service.networks),
    ("network_mode", service.networkMode.map fun mode => .text (networkModeText mode)),
    ("external_links", Tree.texts? service.externalLinks),
    ("secrets", Tree.texts? service.secrets),
    ("configs", Tree.list? (service.configs.map configReferenceTree)),
    ("healthcheck", service.healthcheck.map healthcheckTree),
    ("logging", service.logging.map loggingTree),
    ("deploy", service.deploy.bind deployTree?),
    ("security_opt", Tree.texts? service.securityOptions)]

/-! ### Trees of other entities -/

/-- An entity that is managed outside the stack, under another name or under its own. -/
def externalTree? : Option External → Option Tree
  | some (.named name) =>
    some (.ofFields [("name", some (.text name)), ("external", some (.text "true"))])
  | some (.flag true) => some (.ofFields [("external", some (.text "true"))])
  | _ => none

/-- The driver that the engine has for a volume. -/
def engineDriver : VolumeDriver → String
  | .onHost | .nfs | .tmpfs => "local"
  | .azureFile => "azure_file"
  | .rexray => "rexray/ebs"
  | .glusterfs => "glusterfs"
  | .ceph => "rexray/rbd"
  | .digitalOcean => "rexray/dobs"

/-- The options of a volume as the engine has them: most of them under their own keys, those of
exports, of memory and of replicated volumes in texts that are put together. -/
def engineFields (storage : VolumeStorage) : List Field :=
  let given (key : String) : Option String := storage.options.get? key
  let own (key : String) : Field := (key, (given key).map .text)
  match storage.driver with
  | .onHost => [own "type", own "device", own "o"]
  | .nfs =>
    [("type", some (.text "nfs")),
      ("o", some (.text ("addr=" ++ (given "server").getD "" ++
        ((given "options").map ("," ++ ·)).getD ""))),
      ("device", some (.text (":" ++ (given "share").getD "")))]
  | .tmpfs =>
    let settings := ["size", "uid"].filterMap fun key =>
      (given key).map fun value => key ++ "=" ++ value
    [("type", some (.text "tmpfs")),
      ("device", some (.text "tmpfs")),
      ("o", if settings = [] then none else some (.text (String.intercalate "," settings)))]
  | .azureFile => [own "share_name", own "storage_account_name"]
  | .rexray => [own "size", own "volumetype", own "iops"]
  | .glusterfs =>
    [("voluri", some (.text ((given "servers").getD "" ++ ":" ++ (given "volume").getD "")))]
  | .ceph => [own "monitors", own "pool", own "user", own "secretfile"]
  | .digitalOcean => [own "size", own "region"]

/-- A volume; nothing if the volume sets nothing. The driver of the host is left out if no option is
given. -/
def volumeTree (volume : Volume) : Tree :=
  let storage := volume.storage
  (externalTree? volume.external).getD (.ofFields
    [("driver", if storage.driver = .onHost ∧ storage.options.toList = [] then none
        else some (.text (engineDriver storage.driver))),
      ("driver_opts", Tree.fields? (engineFields storage)),
      ("labels", Tree.pairs? volume.labels.toList)])

/-- An address pool. -/
def poolTree (pool : IpamPool) : Tree := .ofFields
  [("subnet", some (.text pool.subnet)),
    ("gateway", pool.gateway.map .text),
    ("ip_range", pool.ipRange.map .text),
    ("aux_addresses", Tree.pairs? pool.auxAddresses.toList)]

/-- Address management, if it sets anything. -/
def ipamTree? (ipam : Ipam) : Option Tree := Tree.fields?
  [("driver", ipam.driver.map .text), ("config", Tree.list? (ipam.pools.map poolTree))]

/-- A flag. -/
def flagTree (flag : Bool) : Tree := .text (if flag then "true" else "false")

/-- A network. -/
def networkTree (network : Network) : Tree :=
  (externalTree? network.external).getD (.ofFields
    [("driver", some (.text network.driver.word)),
      ("driver_opts", Tree.pairs? network.driverOptions.toList),
      ("ipam", network.ipam.bind ipamTree?),
      ("internal", network.isInternal.map flagTree),
      ("attachable", network.isAttachable.map flagTree),
      ("enable_ipv6", network.enablesIpv6.map flagTree),
      ("labels", Tree.pairs? network.labels.toList)])

/-- A secret. -/
def secretTree (secret : Secret) : Tree :=
  match secret.source with
  | .file path => .ofFields [("file", some (.text path))]
  | .external => .ofFields [("external", some (.text "true"))]

/-- A config. -/
def configTree (config : ConfigFile) : Tree := .ofFields [("file", some (.text config.file))]

end Manifest

/-- The services of a stack: the main one, if there is one, and then the others in the order in
which they were registered. -/
def Stack.mainFirst (stack : Stack) : List Service :=
  (stack.services.toList.filter fun service => stack.mainService = some service.name) ++
    stack.services.toList.filter fun service => stack.mainService ≠ some service.name

/-- The tree of a stack: one section for each kind of entity that there is, and in it one entry for
each entity under its name, the main service first and all others in the order in which they were
registered. -/
def Stack.tree (stack : Stack) : Tree := .ofFields
  [("services", Tree.record? (stack.mainFirst.map fun service =>
      (service.name, Manifest.serviceTree stack service))),
    ("volumes", Tree.record? (stack.volumes.toList.map fun volume =>
      (volume.name, Manifest.volumeTree volume))),
    ("networks", Tree.record? (stack.networks.toList.map fun network =>
      (network.name, Manifest.networkTree network))),
    ("secrets", Tree.record? (stack.secrets.toList.map fun secret =>
      (secret.name, Manifest.secretTree secret))),
    ("configs", Tree.record? (stack.configs.toList.map fun config =>
      (config.name, Manifest.configTree config)))]

end ContainerStack
