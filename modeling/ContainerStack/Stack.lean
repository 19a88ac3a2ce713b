import ContainerStack.Network
import ContainerStack.Path
import ContainerStack.RenderPhase
import ContainerStack.Secret
import ContainerStack.Service
import ContainerStack.Volume

/-!
**Stacks of services.**

A stack has one registry for each kind of entity, variables and files of variables for all services,
and at most one main service. Entities are created and edited through the stack, which is the lookup
that their references are resolved against.

* `Stack.create`: the stack without entities.
* `Stack.createService`, `Stack.addService`, …: the edits that add an entity.
* `Stack.updateService`, …: edits of an entity, made on a copy that is committed at the end.
* `Stack.renderOrder`: the services in the order in which they are written.
-/

namespace ContainerStack

/-- Services with everything that they share. -/
structure Stack where
  name : String
  environment : OrderedMap String
  envFiles : List String
  services : Registry Service
  networks : Registry Network
  volumes : Registry Volume
  secrets : Registry Secret
  configs : Registry ConfigFile
  mainService : Option String
  paths : KnownPaths
  phase : RenderPhase

namespace Stack

/-- The stack without entities. -/
def create (name : String) (paths : KnownPaths) : Except Fault Stack := do
  Validation.present "stack" "name" name
  Validation.ensure (!Text.hasBlank name) (.malformed "stack name" (.breaks name .noWhitespace))
  return {
    name := name
    environment := .empty
    envFiles := []
    services := .empty
    networks := .empty
    volumes := .empty
    secrets := .empty
    configs := .empty
    mainService := none
    paths := paths
    phase := .idle }

/-- How faults call a stack. -/
def owner (stack : Stack) : String := "stack '" ++ stack.name ++ "'"

/-- The entities and files that references of this stack are resolved against. -/
def lookup (stack : Stack) : EntityLookup where
  hasService := stack.services.contains
  hasNetwork := stack.networks.contains
  hasVolume := stack.volumes.contains
  hasSecret := stack.secrets.contains
  hasConfig := stack.configs.contains
  pathExists := stack.paths.knows

/-- A copy, which is not being rendered. -/
def copy (stack : Stack) : Stack := { stack with phase := .idle }

/-! ### Settings for all services -/

/-- Sets an environment variable for all services; the last value wins. -/
def setEnv (key value : String) : Edit Stack Unit := do
  Validation.variableName key
  modify fun stack => { stack with environment := stack.environment.insert key value }

/-- Adds a file of environment variables for all services, which has to exist; repeats are
ignored. -/
def addEnvFile (path : String) : Edit Stack Unit := do
  let stack ← get
  Validation.present "env_file" "path" path
  Validation.ensure (stack.paths.knows path) (.dangling stack.owner .file path)
  set { stack with envFiles := Service.appendNew stack.envFiles path }

/-! ### The main service -/

/-- Accepts a service as the main one unless another one is. -/
def ensureMainVacant (stack : Stack) (name : String) : Except Fault Unit :=
  match stack.mainService with
  | none => .ok ()
  | some current =>
    Validation.ensure (current == name)
      (.duplicate .mainService
        s!"'{current}' is already the main service; cannot also mark '{name}'")

/-- Marks a registered service as the main one. -/
def setMainService (name : String) : Edit Stack Unit := do
  let stack ← get
  Validation.ensure (stack.services.contains name) (.dangling stack.owner .service name)
  stack.ensureMainVacant name
  set { stack with mainService := some name }

/-- The services in the order in which they are written: the main one, then the others in order of
registration. -/
def renderOrder (stack : Stack) : List Service :=
  match stack.mainService.bind stack.services.get? with
  | none => stack.services.toList
  | some main => main :: stack.services.toList.filter fun service => service.name != main.name

/-! ### Adding entities -/

/-- Creates the service of a definition, which may ask to be the main one. -/
def createService (name : String) (spec : Service.Spec) : Edit Stack Unit := do
  let stack ← get
  stack.services.ensureVacant name
  if spec.isMain then stack.ensureMainVacant name
  let service ← Service.ofSpec name spec stack.lookup
  if spec.isMain then modify fun stack => { stack with mainService := some name }
  let services ← stack.services.register service
  modify fun stack => { stack with services := services }

/-- Registers a service that was built elsewhere; its references are resolved again. -/
def addService (service : Service) : Edit Stack Unit := do
  let stack ← get
  stack.services.ensureVacant service.name
  service.checkReferences stack.lookup
  let services ← stack.services.register service
  set { stack with services := services }

/-- Creates the network of a definition. -/
def createNetwork (name : String) (spec : Network.Spec) : Edit Stack Unit := do
  let stack ← get
  stack.networks.ensureVacant name
  let network ← Network.ofSpec name spec
  let networks ← stack.networks.register network
  set { stack with networks := networks }

/-- Creates the volume of a definition. -/
def createVolume (name : String) (spec : Volume.Spec) : Edit Stack Unit := do
  let stack ← get
  stack.volumes.ensureVacant name
  let volume ← Volume.ofSpec name spec
  let volumes ← stack.volumes.register volume
  set { stack with volumes := volumes }

/-- Creates the secret of a definition. -/
def createSecret (name : String) (spec : Secret.Spec) : Edit Stack Unit := do
  let stack ← get
  stack.secrets.ensureVacant name
  let secret ← Secret.ofSpec name spec stack.lookup
  let secrets ← stack.secrets.register secret
  set { stack with secrets := secrets }

/-- Creates the config of a definition. -/
def createConfig (name : String) (spec : ConfigFile.Spec) : Edit Stack Unit := do
  let stack ← get
  stack.configs.ensureVacant name
  let config ← ConfigFile.ofSpec name spec stack.lookup
  let configs ← stack.configs.register config
  set { stack with configs := configs }

/-! ### Editing entities -/

/-- Edits a service on a copy, which is committed if the edit succeeds and every reference of the
copy is there. -/
def updateService {α : Type} (name : String) (edit : EntityLookup → Edit Service α) :
    Edit Stack α := do
  let stack ← get
  match stack.services.get? name with
  | none => throw (.dangling stack.owner .service name)
  | some service =>
    let (answer, edited) ← (edit stack.lookup).onCopy service
    edited.checkReferences stack.lookup
    let services ← stack.services.replace edited
    set { stack with services := services }
    return answer

/-- Edits a network on a copy, which is committed if the edit succeeds. -/
def updateNetwork {α : Type} (name : String) (edit : Edit Network α) : Edit Stack α := do
  let stack ← get
  match stack.networks.get? name with
  | none => throw (.dangling stack.owner .network name)
  | some network =>
    let (answer, edited) ← edit.onCopy network
    let networks ← stack.networks.replace edited
    set { stack with networks := networks }
    return answer

/-- Edits a volume on a copy, which is committed if the edit succeeds. -/
def updateVolume {α : Type} (name : String) (edit : Edit Volume α) : Edit Stack α := do
  let stack ← get
  match stack.volumes.get? name with
  | none => throw (.dangling stack.owner .volume name)
  | some volume =>
    let (answer, edited) ← edit.onCopy volume
    let volumes ← stack.volumes.replace edited
    set { stack with volumes := volumes }
    return answer

end Stack

end ContainerStack
