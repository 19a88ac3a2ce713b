import ContainerStack.Data.Reading
import ContainerStack.Network
import ContainerStack.Secret
import ContainerStack.Service
import ContainerStack.Volume

/-!
**Definitions of entities as data.**

Each definition is a record. A field that is not known makes it unreadable, but for the few records
that stand for a value which may also be written shorter.

* `Service.Spec.ofData?`, `Network.Spec.ofData?`, …: the readings, one for each definition.
-/

namespace ContainerStack

/-- A command: a line, or a list of words. -/
def Command.ofData? : Data → Option Command :=
  Data.resolved? (Data.either? (fun data => data.text?.map shell)
    fun data => (data.list? Data.text?).map exec)

/-- A mark of external resources: a truth value, or a record with another name. -/
def External.ofData? : Data → Option External :=
  Data.resolved? (Data.either? (fun data => data.boolean?.map flag) fun data => do
    let fields ← data.record? ["name"] false
    let name ← fields.required? "name" Data.text?
    return named name)

/-! ### Parts of services -/

/-- The fields of a build. -/
def Build.Spec.fieldNames : List String := ["context", "dockerfile", "target", "args", "ssh"]

/-- A build: a context, or a record, whose values may also be given as a list. -/
def Build.Spec.ofData? : Data → Option Build.Spec :=
  Data.resolved? (Data.either? (fun data => data.text?.map ofContext) fun data => do
    let fields ← (data.named fieldNames).record? fieldNames true
    let context ← fields.text? "context"
    let dockerfile ← fields.text? "dockerfile"
    let target ← fields.text? "target"
    let args ← fields.textMap? "args"
    let ssh ← fields.textMap? "ssh"
    return ⟨context, dockerfile, target, args, ssh⟩)

/-- A port. -/
def PortMapping.Spec.ofData? (data : Data) : Option PortMapping.Spec := do
  let fields ← data.record? ["internal", "external", "internal_only"] true
  let internal ← fields.required? "internal" Data.number32?
  let external ← fields.number? "external"
  let isInternalOnly ← fields.flag? "internal_only"
  return ⟨internal, external, isInternalOnly⟩

/-- A mount. -/
def Mount.Spec.ofData? (data : Data) : Option Mount.Spec := do
  let fields ← data.record? ["name", "host_path", "container_path", "read_only"] true
  let name ← fields.text? "name"
  let hostPath ← fields.text? "host_path"
  let containerPath ← fields.text? "container_path"
  let readOnly ← fields.boolean? "read_only"
  return ⟨name, hostPath, containerPath, readOnly⟩

/-- A dependency: the name of a service, or a record with a condition. -/
def Dependency.Spec.ofData? : Data → Option Dependency.Spec :=
  Data.resolved? (Data.either? (fun data => data.text?.map fun name => ⟨name, none⟩) fun data => do
    let fields ← data.record? ["service", "condition"] false
    let service ← fields.required? "service" Data.text?
    let condition ← fields.text? "condition"
    return ⟨service, condition⟩)

/-- A restart policy: its word, or a record with a number of attempts. -/
def RestartPolicy.Spec.ofData? : Data → Option RestartPolicy.Spec :=
  Data.resolved? (Data.either? (fun data => data.text?.map fun word => ⟨word, none⟩)
    fun data => do
      let fields ← data.record? ["policy", "times"] false
      let policy ← fields.required? "policy" Data.text?
      let times ← fields.number? "times"
      return ⟨policy, times⟩)

/-- Logging. -/
def Logging.Spec.ofData? (data : Data) : Option Logging.Spec := do
  let fields ← data.record? ["driver", "options"] true
  let driver ← fields.required? "driver" Data.text?
  let options ← fields.textMap? "options"
  return ⟨driver, options⟩

/-- A health check. -/
def Healthcheck.Spec.ofData? (data : Data) : Option Healthcheck.Spec := do
  let fields ← data.record?
    ["test", "interval", "timeout", "retries", "start_period", "disable"] true
  let test ← fields.optional? "test" Command.ofData?
  let interval ← fields.text? "interval"
  let timeout ← fields.text? "timeout"
  let retries ← fields.number? "retries"
  let startPeriod ← fields.text? "start_period"
  let disable ← fields.flag? "disable"
  return ⟨test, interval, timeout, retries, startPeriod, disable⟩

/-- An access mode. -/
def FileMode.Spec.ofData? (data : Data) : Option FileMode.Spec := do
  let fields ← data.record? ["owner", "group", "others"] true
  let owner ← fields.list? "owner" (Data.word? Permission.all Permission.word)
  let group ← fields.list? "group" (Data.word? Permission.all Permission.word)
  let others ← fields.list? "others" (Data.word? Permission.all Permission.word)
  return ⟨owner, group, others⟩

/-- A reference to a config. -/
def ConfigReference.Spec.ofData? (data : Data) : Option ConfigReference.Spec := do
  let fields ← data.record? ["source", "target", "mode"] true
  let source ← fields.required? "source" Data.text?
  let target ← fields.text? "target"
  let mode ← fields.optional? "mode" FileMode.Spec.ofData?
  return ⟨source, target, mode⟩

/-- Amounts of processors and memory. -/
def Amounts.ofData? (data : Data) : Option Amounts := do
  let fields ← data.record? ["cpus", "memory"] true
  let cpus ← fields.text? "cpus"
  let memory ← fields.text? "memory"
  return ⟨cpus, memory⟩

/-- Limits and reservations. -/
def Resources.ofData? (data : Data) : Option Resources := do
  let fields ← data.record? ["limits", "reservations"] true
  let limits ← fields.optional? "limits" Amounts.ofData?
  let reservations ← fields.optional? "reservations" Amounts.ofData?
  return ⟨limits, reservations⟩

/-- The restart policy of a deployment. -/
def TaskRestart.Spec.ofData? (data : Data) : Option TaskRestart.Spec := do
  let fields ← data.record? ["condition", "delay", "max_attempts", "window"] true
  let condition ← fields.text? "condition"
  let delay ← fields.text? "delay"
  let maxAttempts ← fields.number? "max_attempts"
  let window ← fields.text? "window"
  return ⟨condition, delay, maxAttempts, window⟩

/-- A deployment. -/
def Deployment.Spec.ofData? (data : Data) : Option Deployment.Spec := do
  let fields ← data.record?
    ["mode", "replicas", "resources", "restart_policy", "placement", "labels"] true
  let mode ← fields.text? "mode"
  let replicas ← fields.number? "replicas"
  let resources ← fields.optional? "resources" Resources.ofData?
  let restartPolicy ← fields.optional? "restart_policy" TaskRestart.Spec.ofData?
  let placement ← fields.texts? "placement"
  let labels ← fields.textMap? "labels"
  return ⟨mode, replicas, resources, restartPolicy, placement, labels⟩

/-! ### Entities -/

/-- A service. -/
def Service.Spec.ofData? (data : Data) : Option Service.Spec := do
  let fields ← data.record?
    ["main", "image", "build", "ports", "volumes", "environment", "env_files", "entrypoint",
      "command", "depends_on", "networks", "network_mode", "user", "restart", "logging",
      "healthcheck", "external_links", "secrets", "configs", "deploy", "security_opt"] true
  let isMain ← fields.flag? "main"
  let image ← fields.text? "image"
  let build ← fields.optional? "build" Build.Spec.ofData?
  let ports ← fields.list? "ports" PortMapping.Spec.ofData?
  let volumes ← fields.list? "volumes" Mount.Spec.ofData?
  let environment ← fields.textMap? "environment"
  let envFiles ← fields.texts? "env_files"
  let entrypoint ← fields.optional? "entrypoint" Command.ofData?
  let command ← fields.optional? "command" Command.ofData?
  let dependsOn ← fields.list? "depends_on" Dependency.Spec.ofData?
  let networks ← fields.texts? "networks"
  let networkMode ← fields.text? "network_mode"
  let user ← fields.text? "user"
  let restart ← fields.optional? "restart" RestartPolicy.Spec.ofData?
  let logging ← fields.optional? "logging" Logging.Spec.ofData?
  let healthcheck ← fields.optional? "healthcheck" Healthcheck.Spec.ofData?
  let externalLinks ← fields.texts? "external_links"
  let secrets ← fields.texts? "secrets"
  let configs ← fields.list? "configs" ConfigReference.Spec.ofData?
  let deploy ← fields.optional? "deploy" Deployment.Spec.ofData?
  let securityOptions ← fields.texts? "security_opt"
  return ⟨isMain, image, build, ports, volumes, environment, envFiles, entrypoint, command,
    dependsOn, networks, networkMode, user, restart, logging, healthcheck, externalLinks, secrets,
    configs, deploy, securityOptions⟩

/-- An address pool. -/
def IpamPool.Spec.ofData? (data : Data) : Option IpamPool.Spec := do
  let fields ← data.record? ["subnet", "gateway", "ip_range", "aux_addresses"] true
  let subnet ← fields.text? "subnet"
  let gateway ← fields.text? "gateway"
  let ipRange ← fields.text? "ip_range"
  let auxAddresses ← fields.textMap? "aux_addresses"
  return ⟨subnet, gateway, ipRange, auxAddresses⟩

/-- Address management. -/
def Ipam.Spec.ofData? (data : Data) : Option Ipam.Spec := do
  let fields ← data.record? ["driver", "config"] true
  let driver ← fields.text? "driver"
  let pools ← fields.list? "config" IpamPool.Spec.ofData?
  return ⟨driver, pools⟩

/-- A network. -/
def Network.Spec.ofData? (data : Data) : Option Network.Spec := do
  let fields ← data.record?
    ["driver", "driver_opts", "ipam", "internal", "attachable", "enable_ipv6", "external",
      "labels", "scope"] true
  let driver ← fields.text? "driver"
  let driverOptions ← fields.textMap? "driver_opts"
  let ipam ← fields.optional? "ipam" Ipam.Spec.ofData?
  let isInternal ← fields.boolean? "internal"
  let isAttachable ← fields.boolean? "attachable"
  let enablesIpv6 ← fields.boolean? "enable_ipv6"
  let external ← fields.optional? "external" External.ofData?
  let labels ← fields.textMap? "labels"
  let scope ← fields.text? "scope"
  return ⟨driver, driverOptions, ipam, isInternal, isAttachable, enablesIpv6, external, labels,
    scope⟩

/-- A volume. -/
def Volume.Spec.ofData? (data : Data) : Option Volume.Spec := do
  let fields ← data.record?
    ["driver", "driver_opts", "external", "labels", "scope", "access_mode", "tmpfs", "size"] true
  let driver ← fields.text? "driver"
  let driverOptions ← fields.textMap? "driver_opts"
  let external ← fields.optional? "external" External.ofData?
  let labels ← fields.textMap? "labels"
  let scope ← fields.text? "scope"
  let accessMode ← fields.text? "access_mode"
  let isTmpfs ← fields.flag? "tmpfs"
  let size ← fields.text? "size"
  return ⟨driver, driverOptions, external, labels, scope, accessMode, isTmpfs, size⟩

/-- A secret. -/
def Secret.Spec.ofData? (data : Data) : Option Secret.Spec := do
  let fields ← data.record? ["file", "external"] true
  let file ← fields.text? "file"
  let isExternal ← fields.boolean? "external"
  return ⟨file, isExternal⟩

/-- A config. -/
def ConfigFile.Spec.ofData? (data : Data) : Option ConfigFile.Spec := do
  let fields ← data.record? ["file"] true
  let file ← fields.text? "file"
  return ⟨file⟩

end ContainerStack
