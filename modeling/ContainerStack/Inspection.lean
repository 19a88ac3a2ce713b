import ContainerStack.Data
import ContainerStack.Stack

/-!
**What can be seen of the entities of a stack.**

An inspection is a tree of data: the settings of an entity by name, nothing where a setting is
missing, and ordered maps as lists of pairs, so that their order is seen. It shows what holds, not
what was written: settings that have no effect are not seen.

* `Service.inspect`, `Network.inspect`, `Volume.inspect`, `Secret.inspect`, `ConfigFile.inspect`:
  one entity.
* `Stack.inspect`: the settings of a stack and the names of its entities.
-/

namespace ContainerStack

namespace Data

/-- A record of named values. -/
def record (fields : List (String × Data)) : Data :=
  mapping (fields.map fun (name, value) => (text name, value))

/-- A number without sign. -/
def number (value : Nat) : Data := natural value

/-- A value that may be missing. -/
def orNull {α : Type} (view : α → Data) : Option α → Data
  | some value => view value
  | none => null

/-- A text that may be missing. -/
def textOrNull : Option String → Data := orNull text

/-- A list of texts. -/
def texts (values : List String) : Data := sequence (values.map text)

/-- A list of pairs of texts. -/
def pairs (entries : List (String × String)) : Data :=
  sequence (entries.map fun (key, value) => texts [key, value])

end Data

open Data

/-- The reference to an entity that is managed elsewhere. -/
def External.inspect : External → Data
  | flag isExternal => boolean isExternal
  | named name => record [("name", text name)]

/-! ### Services -/

/-- The amounts of resources. -/
def Amounts.inspect (amounts : Amounts) : Data :=
  record [("cpus", textOrNull amounts.cpus), ("memory", textOrNull amounts.memory)]

/-- The resources of a deployment. -/
def Resources.inspect (resources : Resources) : Data :=
  record [("limits", orNull Amounts.inspect resources.limits),
    ("reservations", orNull Amounts.inspect resources.reservations)]

/-- The restart policy of a deployment. -/
def TaskRestart.inspect (policy : TaskRestart) : Data :=
  record [("condition", orNull (fun condition => text condition.word) policy.condition),
    ("delay", textOrNull policy.delay), ("max_attempts", orNull number policy.maxAttempts),
    ("window", textOrNull policy.window)]

/-- A deployment; resources and policies without content are not seen. -/
def Deployment.inspect (deploy : Deployment) : Data :=
  record [("mode", orNull (fun mode => text mode.word) deploy.mode),
    ("replicas", orNull number deploy.replicas),
    ("resources", orNull Resources.inspect deploy.shownResources),
    ("restart_policy", orNull TaskRestart.inspect deploy.shownRestartPolicy),
    ("placement", texts deploy.placement), ("labels", pairs deploy.labels.toList),
    ("empty", boolean deploy.isEmpty)]

/-- A build. -/
def Build.inspect (build : Build) : Data :=
  record [("context", text build.context), ("dockerfile", textOrNull build.dockerfile),
    ("target", textOrNull build.target), ("args", pairs build.args.toList),
    ("ssh", pairs build.ssh.toList)]

/-- Where an image comes from. -/
def ImageSource.inspect : ImageSource → Data
  | image reference => record [("image", text reference)]
  | build given => record [("build", given.inspect)]

/-- A port with the port of the host that leads to it. -/
def PortMapping.inspect (port : PortMapping) : Data :=
  record [("internal", number port.internal), ("host", orNull number port.hostPort),
    ("internal_only", boolean port.isInternalOnly)]

/-- A mount. -/
def Mount.inspect : Mount → Data
  | anonymous path => record [("kind", text "anonymous"), ("path", text path)]
  | named name path mode =>
    record [("kind", text "named"), ("name", text name), ("path", text path),
      ("mode", orNull (fun mode => text mode.word) mode)]
  | bind host path mode =>
    record [("kind", text "bind"), ("host", text host), ("path", text path),
      ("mode", text mode.word)]

/-- A command: a line, or its words. -/
def Command.inspect : Command → Data
  | shell line => text line
  | exec words => texts words

/-- A logging driver with its options. -/
def Logging.inspect (logging : Logging) : Data :=
  record [("driver", text logging.driver.word), ("options", pairs logging.options.toList)]

/-- A health check. -/
def Healthcheck.inspect (check : Healthcheck) : Data :=
  record [("disabled", boolean check.isDisabled), ("test", orNull texts check.testWords),
    ("interval", textOrNull check.interval), ("timeout", textOrNull check.timeout),
    ("start_period", textOrNull check.startPeriod), ("retries", orNull number check.retries)]

/-- A reference to a config. -/
def ConfigReference.inspect (config : ConfigReference) : Data :=
  record [("source", text config.source), ("target", textOrNull config.target),
    ("mode", orNull (fun mode => text mode.octal) config.mode)]

/-- A dependency with its condition. -/
def Dependency.inspect (name : String) (condition : Option DependencyCondition) : Data :=
  sequence [text name, orNull (fun condition => text condition.word) condition]

/-- A service. -/
def Service.inspect (service : Service) : Data :=
  record [("name", text service.name), ("source", orNull ImageSource.inspect service.source),
    ("ports", sequence (service.ports.map PortMapping.inspect)),
    ("volumes", sequence (service.mounts.map Mount.inspect)),
    ("environment", pairs service.environment.toList), ("env_files", texts service.envFiles),
    ("entrypoint", orNull Command.inspect service.entrypoint),
    ("command", orNull Command.inspect service.command),
    ("depends_on", sequence (service.dependsOn.toList.map fun (name, condition) =>
      Dependency.inspect name condition)),
    ("networks", texts service.networks),
    ("network_mode", orNull (fun mode => text mode.text) service.networkMode),
    ("user", textOrNull service.user),
    ("restart", orNull (fun policy => text policy.text) service.restart),
    ("logging", orNull Logging.inspect service.logging),
    ("healthcheck", orNull Healthcheck.inspect service.healthcheck),
    ("external_links", texts service.externalLinks), ("secrets", texts service.secrets),
    ("configs", sequence (service.configs.map ConfigReference.inspect)),
    ("deploy", orNull Deployment.inspect service.deploy),
    ("security_opt", texts service.securityOptions)]

/-! ### Networks, volumes, secrets and configs -/

/-- A pool of addresses. -/
def IpamPool.inspect (pool : IpamPool) : Data :=
  record [("subnet", text pool.subnet), ("gateway", textOrNull pool.gateway),
    ("ip_range", textOrNull pool.ipRange), ("aux_addresses", pairs pool.auxAddresses.toList)]

/-- The addresses of a network. -/
def Ipam.inspect (ipam : Ipam) : Data :=
  record [("driver", textOrNull ipam.driver),
    ("pools", sequence (ipam.pools.map IpamPool.inspect))]

/-- A network. -/
def Network.inspect (network : Network) : Data :=
  record [("name", text network.name), ("driver", text network.driver.word),
    ("driver_opts", pairs network.driverOptions.toList),
    ("ipam", orNull Ipam.inspect network.shownIpam),
    ("internal", orNull boolean network.isInternal),
    ("attachable", orNull boolean network.isAttachable),
    ("enable_ipv6", orNull boolean network.enablesIpv6),
    ("external", orNull External.inspect network.shownExternal),
    ("labels", pairs network.labels.toList), ("scope", text network.scope.word)]

/-- A volume, with what the engine is told about its driver. -/
def Volume.inspect (volume : Volume) : Data :=
  record [("name", text volume.name), ("driver", text volume.storage.driver.word),
    ("engine_driver", text volume.storage.driver.engineWord),
    ("engine_options", pairs volume.storage.engineOptions),
    ("explicit", boolean volume.shownStorage.isSome), ("tmpfs", boolean volume.isTmpfs),
    ("external", orNull External.inspect volume.shownExternal),
    ("labels", pairs volume.labels.toList), ("scope", text volume.scope.word),
    ("access_mode", text volume.accessMode.word)]

/-- A secret. -/
def Secret.inspect (secret : Secret) : Data :=
  match secret.source with
  | .file path => record [("name", text secret.name), ("file", text path)]
  | .external => record [("name", text secret.name), ("external", boolean true)]

/-- A config. -/
def ConfigFile.inspect (config : ConfigFile) : Data :=
  record [("name", text config.name), ("file", text config.file)]

/-! ### Stacks -/

/-- The settings of a stack and the names of its entities. -/
def Stack.inspect (stack : Stack) : Data :=
  record [("name", text stack.name), ("environment", pairs stack.environment.toList),
    ("env_files", texts stack.envFiles), ("services", texts stack.services.names),
    ("networks", texts stack.networks.names), ("volumes", texts stack.volumes.names),
    ("secrets", texts stack.secrets.names), ("configs", texts stack.configs.names),
    ("main", textOrNull stack.mainService),
    ("render_order", texts (stack.renderOrder.map Service.name))]

/-- The entity of a kind that has a name, if the stack has such entities. -/
def Stack.inspectEntity (stack : Stack) (kind : EntityKind) (name : String) : Data :=
  match kind with
  | .service => orNull Service.inspect (stack.services.get? name)
  | .network => orNull Network.inspect (stack.networks.get? name)
  | .volume => orNull Volume.inspect (stack.volumes.get? name)
  | .secret => orNull Secret.inspect (stack.secrets.get? name)
  | .config => orNull ConfigFile.inspect (stack.configs.get? name)
  | _ => null

end ContainerStack
