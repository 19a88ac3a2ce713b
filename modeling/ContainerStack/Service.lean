import ContainerStack.Edit
import ContainerStack.Registry
import ContainerStack.Service.Build
import ContainerStack.Service.ConfigReference
import ContainerStack.Service.Deployment
import ContainerStack.Service.Healthcheck
import ContainerStack.Service.Logging
import ContainerStack.Service.Mount
import ContainerStack.Service.NetworkMode
import ContainerStack.Service.Port
import ContainerStack.Service.Restart

/-!
**Services.**

A service is created under a name and changed by edits, one for each setting. An edit that names
another entity is given an `EntityLookup` and is refused where the entity is not there.

* `Service.create`: the service that sets nothing.
* `Service.setImage`, `Service.addPort`, …: the edits.
* `Service.checkReferences`: resolves every reference of a service again.
* `Service.ofSpec`: the service of a definition.
-/

namespace ContainerStack

/-- Where the image of a service comes from. -/
inductive ImageSource where
  | image (reference : String)
  | build (build : Build)
  deriving DecidableEq

/-- A service and its settings. -/
structure Service where
  name : String
  source : Option ImageSource
  ports : List PortMapping
  mounts : List Mount
  environment : OrderedMap String
  envFiles : List String
  entrypoint : Option Command
  command : Option Command
  dependsOn : OrderedMap (Option DependencyCondition)
  networks : List String
  networkMode : Option NetworkMode
  user : Option String
  restart : Option RestartPolicy
  logging : Option Logging
  healthcheck : Option Healthcheck
  externalLinks : List String
  secrets : List String
  configs : List ConfigReference
  deploy : Option Deployment
  securityOptions : List String
  deriving DecidableEq

instance : Named Service where
  kind := .service
  name := Service.name

namespace Service

/-- A service as a definition gives it. -/
structure Spec where
  isMain : Bool
  image : Option String
  build : Option Build.Spec
  ports : List PortMapping.Spec
  volumes : List Mount.Spec
  environment : OrderedMap String
  envFiles : List String
  entrypoint : Option Command
  command : Option Command
  dependsOn : List Dependency.Spec
  networks : List String
  networkMode : Option String
  user : Option String
  restart : Option RestartPolicy.Spec
  logging : Option Logging.Spec
  healthcheck : Option Healthcheck.Spec
  externalLinks : List String
  secrets : List String
  configs : List ConfigReference.Spec
  deploy : Option Deployment.Spec
  securityOptions : List String
  deriving DecidableEq

/-- The service that sets nothing. -/
def create (name : String) : Except Fault Service := do
  Validation.name .service name
  return {
    name := name
    source := none
    ports := []
    mounts := []
    environment := .empty
    envFiles := []
    entrypoint := none
    command := none
    dependsOn := .empty
    networks := []
    networkMode := none
    user := none
    restart := none
    logging := none
    healthcheck := none
    externalLinks := []
    secrets := []
    configs := []
    deploy := none
    securityOptions := [] }

/-- How faults call a service. -/
def owner (service : Service) : String := "service '" ++ service.name ++ "'"

/-- Appends an item that is not in the list yet. -/
def appendNew (items : List String) (item : String) : List String :=
  if items.contains item then items else items ++ [item]

/-! ### Image and ports -/

/-- Pulls the image; a service that is built has none. -/
def setImage (image : String) : Edit Service Unit := do
  Validation.token "image" image
  let service ← get
  if let some (.build _) := service.source then
    throw (.malformed "image" (.imageBesideBuild service.name))
  set { service with source := some (.image image) }

/-- Builds the image; a service that pulls its image has no build. -/
def setBuild (build : Build) : Edit Service Unit := do
  let service ← get
  if let some (.image _) := service.source then
    throw (.malformed "build" (.buildBesideImage service.name))
  set { service with source := some (.build build) }

/-- Adds a port unless it is there; no two ports have the same number on the host. -/
def addPort (port : PortMapping) : Edit Service Unit := do
  let service ← get
  if service.ports.contains port then return
  if let some number := port.hostPort then
    if service.ports.any fun other => other.hostPort == some number then
      throw (.duplicate .hostPort (toString number))
  set { service with ports := service.ports ++ [port] }

/-! ### Mounts, environment and commands -/

/-- Accepts a mount whose volume is there, or whose path on the host is not blank. -/
def checkMountSource (service : Service) (mount : Mount) (lookup : EntityLookup) :
    Except Fault Unit :=
  match mount with
  | .named name _ _ =>
    Validation.ensure (lookup.hasVolume name) (.dangling service.owner .volume name)
  | .bind hostPath _ _ => Validation.present "service volume" "host_path" hostPath
  | .anonymous _ => .ok ()

/-- Mounts a volume; no two mounts have the same path. -/
def addMount (mount : Mount) (lookup : EntityLookup) : Edit Service Unit := do
  let service ← get
  Validation.containerPath "service volume" mount.containerPath
  service.checkMountSource mount lookup
  if service.mounts.any fun other => other.containerPath == mount.containerPath then
    throw (.duplicate .volume (service.name ++ " mount at " ++ mount.containerPath))
  set { service with mounts := service.mounts ++ [mount] }

/-- Sets an environment variable; the last value wins. -/
def setEnv (key value : String) : Edit Service Unit := do
  Validation.variableName key
  modify fun service => { service with environment := service.environment.insert key value }

/-- Adds a file of environment variables, which has to exist; repeats are ignored. -/
def addEnvFile (path : String) (lookup : EntityLookup) : Edit Service Unit := do
  let service ← get
  Validation.present "env_file" "path" path
  Validation.ensure (lookup.pathExists path) (.dangling service.owner .file path)
  set { service with envFiles := appendNew service.envFiles path }

/-- Sets the entrypoint. -/
def setEntrypoint (entrypoint : Command) : Edit Service Unit := do
  entrypoint.validate "entrypoint"
  modify fun service => { service with entrypoint := some entrypoint }

/-- Sets the command. -/
def setCommand (command : Command) : Edit Service Unit := do
  command.validate "command"
  modify fun service => { service with command := some command }

/-! ### Other services and networks -/

/-- Waits for another service; the last condition wins. -/
def addDependency (other : String) (condition : Option DependencyCondition)
    (lookup : EntityLookup) : Edit Service Unit := do
  let service ← get
  if other = service.name then
    throw (.malformed "depends_on" (.selfDependency service.name))
  Validation.ensure (lookup.hasService other) (.dangling service.owner .service other)
  set { service with dependsOn := service.dependsOn.insert other condition }

/-- Adds a dependency of a definition. -/
def addDependencySpec (spec : Dependency.Spec) (lookup : EntityLookup) : Edit Service Unit := do
  let condition ← spec.condition.mapM fun word => (DependencyCondition.ofWord word : Except Fault _)
  addDependency spec.service condition lookup

/-- Joins a network; a service with a network mode joins none. -/
def addNetwork (network : String) (lookup : EntityLookup) : Edit Service Unit := do
  let service ← get
  if service.networkMode.isSome then
    throw (.malformed "networks" (.networksBesideMode service.name))
  Validation.ensure (lookup.hasNetwork network) (.dangling service.owner .network network)
  set { service with networks := appendNew service.networks network }

/-- Sets the network mode; a service that joins networks has none. -/
def setNetworkMode (mode : NetworkMode) (lookup : EntityLookup) : Edit Service Unit := do
  let service ← get
  if !service.networks.isEmpty then
    throw (.malformed "network_mode" (.modeBesideNetworks service.name))
  if let some target := mode.target? then
    if target = service.name then
      throw (.malformed "network_mode" (.ownNetworkStack service.name))
    Validation.ensure (lookup.hasService target) (.dangling service.owner .service target)
  set { service with networkMode := some mode }

/-- Whether text is one part, or two parts with a colon between them, none of them empty. -/
def isPartOrPair (text : String) : Bool :=
  let parts := Text.pieces ':' text
  parts.length ≤ 2 && parts.all (· != "")

/-- Sets the user: a user, or a user and a group. -/
def setUser (user : String) : Edit Service Unit := do
  Validation.token "user" user
  Validation.ensure (isPartOrPair user) (.malformed "user" (.breaks user .userOrUserGroup))
  modify fun service => { service with user := some user }

/-- Links to a container outside the stack; repeats are ignored. -/
def addExternalLink (link : String) : Edit Service Unit := do
  Validation.token "external_links" link
  Validation.ensure (isPartOrPair link)
    (.malformed "external_links" (.breaks link .containerOrAlias))
  modify fun service => { service with externalLinks := appendNew service.externalLinks link }

/-! ### Running -/

/-- Sets when the service is started again. -/
def setRestart (policy : RestartPolicy) : Edit Service Unit :=
  modify fun service => { service with restart := some policy }

/-- Sets the logging. -/
def setLogging (logging : Logging) : Edit Service Unit := do
  logging.validate
  modify fun service => { service with logging := some logging }

/-- Sets the health check. -/
def setHealthcheck (check : Healthcheck) : Edit Service Unit :=
  modify fun service => { service with healthcheck := some check }

/-- Sets the deployment. -/
def setDeploy (deploy : Deployment) : Edit Service Unit :=
  modify fun service => { service with deploy := some deploy }

/-- Adds a security option; repeats are ignored. -/
def addSecurityOption (option : String) : Edit Service Unit := do
  Validation.token "security_opt" option
  modify fun service =>
    { service with securityOptions := appendNew service.securityOptions option }

/-! ### Secrets and configs -/

/-- Uses a secret; repeats are ignored. -/
def addSecret (secret : String) (lookup : EntityLookup) : Edit Service Unit := do
  let service ← get
  Validation.ensure (lookup.hasSecret secret) (.dangling service.owner .secret secret)
  set { service with secrets := appendNew service.secrets secret }

/-- Mounts a config; each config is mounted at most once. -/
def addConfig (config : ConfigReference) (lookup : EntityLookup) : Edit Service Unit := do
  let service ← get
  Validation.ensure (lookup.hasConfig config.source)
    (.dangling service.owner .config config.source)
  if service.configs.any fun other => other.source == config.source then
    throw (.duplicate .config (config.source ++ " in service " ++ service.name))
  set { service with configs := service.configs ++ [config] }

/-! ### References -/

/-- The volumes of the stack that a service mounts. -/
def namedVolumes (service : Service) : List String :=
  service.mounts.filterMap fun mount =>
    match mount with
    | .named name _ _ => some name
    | _ => none

/-- Accepts a list of names that are all there, else names the first that is not. -/
def resolve (service : Service) (kind : EntityKind) (isThere : String → Bool)
    (names : List String) : Except Fault Unit :=
  match names.find? fun name => !isThere name with
  | some name => .error (.dangling service.owner kind name)
  | none => .ok ()

/-- Resolves every reference of a service: volumes, files, dependencies, networks, the service of
the network mode, secrets and configs, in this order. -/
def checkReferences (service : Service) (lookup : EntityLookup) : Except Fault Unit := do
  service.resolve .volume lookup.hasVolume service.namedVolumes
  service.resolve .file lookup.pathExists service.envFiles
  service.resolve .service lookup.hasService service.dependsOn.keys
  service.resolve .network lookup.hasNetwork service.networks
  service.resolve .service lookup.hasService (service.networkMode.bind NetworkMode.target?).toList
  service.resolve .secret lookup.hasSecret service.secrets
  service.resolve .config lookup.hasConfig (service.configs.map ConfigReference.source)

/-! ### Definitions -/

/-- Applies every setting of a definition. -/
def applySpec (spec : Spec) (lookup : EntityLookup) : Edit Service Unit := do
  spec.image.forM setImage
  spec.build.forM fun build => do setBuild (← Build.ofSpec build lookup)
  spec.ports.forM fun port => do addPort (← PortMapping.ofSpec port)
  spec.volumes.forM fun mount => do addMount (← Mount.ofSpec mount) lookup
  spec.environment.toList.forM fun (key, value) => setEnv key value
  spec.envFiles.forM fun path => addEnvFile path lookup
  spec.entrypoint.forM setEntrypoint
  spec.command.forM setCommand
  spec.dependsOn.forM fun dependency => addDependencySpec dependency lookup
  spec.networks.forM fun network => addNetwork network lookup
  spec.networkMode.forM fun mode => do setNetworkMode (← NetworkMode.ofText mode) lookup
  spec.user.forM setUser
  spec.restart.forM fun restart => do setRestart (← RestartPolicy.ofSpec restart)
  spec.logging.forM fun logging => do setLogging (← Logging.ofSpec logging)
  spec.healthcheck.forM fun check => do setHealthcheck (← Healthcheck.ofSpec check)
  spec.externalLinks.forM addExternalLink
  spec.secrets.forM fun secret => addSecret secret lookup
  spec.configs.forM fun config => do addConfig (← ConfigReference.ofSpec config) lookup
  spec.deploy.forM fun deploy => do setDeploy (← Deployment.ofSpec deploy)
  spec.securityOptions.forM addSecurityOption

/-- The service of a definition. -/
def ofSpec (name : String) (spec : Spec) (lookup : EntityLookup) : Except Fault Service := do
  let service ← create name
  let (_, built) ← (applySpec spec lookup).onCopy service
  return built

end Service

end ContainerStack
