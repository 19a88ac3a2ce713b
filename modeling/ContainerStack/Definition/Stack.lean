import ContainerStack.Definition.Entity
import ContainerStack.Stack

/-!
**Definitions of stacks.**

A definition gives the settings and entities of a stack in one document. Services are created after
all other entities, and references from service to service are set once all services are there, so
the order of the entries does not matter.

* `StackDefinition.ofData?`: reads a definition.
* `StackDefinition.build`: the stack of a definition.
-/

namespace ContainerStack

/-- A stack as one document gives it. -/
structure StackDefinition where
  name : Option String
  environment : OrderedMap String
  envFiles : List String
  services : OrderedMap Service.Spec
  networks : OrderedMap Network.Spec
  volumes : OrderedMap Volume.Spec
  secrets : OrderedMap Secret.Spec
  configs : OrderedMap ConfigFile.Spec
  deriving DecidableEq

namespace StackDefinition

/-- Reads a definition. -/
def ofData? (data : Data) : Option StackDefinition := do
  let fields ← data.record?
    ["name", "environment", "env_files", "services", "networks", "volumes", "secrets", "configs"]
    true
  let name ← fields.text? "name"
  let environment ← fields.textMap? "environment"
  let envFiles ← fields.texts? "env_files"
  let services ← fields.map? "services" Service.Spec.ofData?
  let networks ← fields.map? "networks" Network.Spec.ofData?
  let volumes ← fields.map? "volumes" Volume.Spec.ofData?
  let secrets ← fields.map? "secrets" Secret.Spec.ofData?
  let configs ← fields.map? "configs" ConfigFile.Spec.ofData?
  return ⟨name, environment, envFiles, services, networks, volumes, secrets, configs⟩

/-- The services that an entry waits for and that the definition does not have, in document
order. -/
def undeclaredDependencies (definition : StackDefinition) : List String :=
  (definition.services.values.flatMap fun spec => spec.dependsOn.map Dependency.Spec.service).filter
    fun name => !definition.services.contains name

/-- The network mode of an entry. -/
def modeOf (spec : Service.Spec) : Except Fault (Option NetworkMode) :=
  spec.networkMode.mapM NetworkMode.ofText

/-- Whether a network mode points at another service. -/
def isDeferred (mode : NetworkMode) : Bool := mode.target?.isSome

/-- An entry without its references to other services. -/
def withoutReferences (spec : Service.Spec) (mode : Option NetworkMode) : Service.Spec :=
  { spec with
    dependsOn := []
    networkMode := (mode.filter fun mode => !isDeferred mode).map NetworkMode.text }

/-- Creates a service without its references to other services. -/
def createWithoutReferences (name : String) (spec : Service.Spec) : Edit Stack Unit := do
  let mode ← modeOf spec
  Stack.createService name (withoutReferences spec mode)

/-- The references of an entry to other services. -/
def setReferences (spec : Service.Spec) (mode : Option NetworkMode) (lookup : EntityLookup) :
    Edit Service Unit := do
  spec.dependsOn.forM fun dependency => Service.addDependencySpec dependency lookup
  if let some deferred := mode.filter isDeferred then Service.setNetworkMode deferred lookup

/-- Sets the references of a service to other services, if there are any. -/
def applyReferences (name : String) (spec : Service.Spec) : Edit Stack Unit := do
  let mode ← modeOf spec
  if spec.dependsOn.isEmpty && !mode.any isDeferred then return
  Stack.updateService name (setReferences spec mode)

/-- Applies the settings and entities of a definition. -/
def apply (definition : StackDefinition) : Edit Stack Unit := do
  definition.environment.toList.forM fun (key, value) => Stack.setEnv key value
  definition.envFiles.forM Stack.addEnvFile
  definition.networks.toList.forM fun (name, spec) => Stack.createNetwork name spec
  definition.volumes.toList.forM fun (name, spec) => Stack.createVolume name spec
  definition.secrets.toList.forM fun (name, spec) => Stack.createSecret name spec
  definition.configs.toList.forM fun (name, spec) => Stack.createConfig name spec
  definition.services.toList.forM fun (name, spec) => createWithoutReferences name spec
  definition.services.toList.forM fun (name, spec) => applyReferences name spec

/-- The stack of a definition. -/
def build (definition : StackDefinition) (paths : KnownPaths) : Except Fault Stack :=
  match definition.name with
  | none => .error (.missing "stack definition" "name")
  | some name =>
    match definition.undeclaredDependencies with
    | dependency :: _ => .error (.dangling s!"stack definition '{name}'" .service dependency)
    | [] => do
      let stack ← Stack.create name paths
      let (_, built) ← definition.apply.onCopy stack
      return built

end StackDefinition

end ContainerStack
