import ContainerStack.Definition.Entity
import ContainerStack.Script.Template

/-!
**Definitions of build scripts.**

A definition gives the stages of a script in one document. Every entry goes through the edits of its
stage.

* `ScriptDefinition.ofData?`: reads a definition.
* `ScriptDefinition.build`: the template of a definition.
-/

namespace ContainerStack.Script

/-- Whether a key tells the kind of a predefined command. -/
def isKindKey : Data → Bool
  | .text key => key == "macro"
  | _ => false

/-- The kind of a predefined command and what else is given for it: the field `macro` and the other
fields of a record, or the first value and the other values of a list. The kind is a word however it
is written; all else has its own meaning. -/
def Predefined.kind? : Data → Option (String × Data)
  | .tagged tag data => if tag.choice?.isSome then none else kind? data
  | .sequence (kind :: others) => do
    let word ← kind.text?
    let values ← Data.resolveItems? others
    return (word, .sequence values)
  | .mapping entries => do
    let keyed ← entries.mapM fun (key, value) => do
      let name ← key.resolve?
      return (name, value)
    match keyed.filter fun entry => isKindKey entry.1 with
    | [(_, kind)] =>
      let word ← kind.text?
      let fields ← (Data.mapping (keyed.filter fun entry => !isKindKey entry.1)).resolve?
      return (word, fields)
    | _ => none
  | _ => none

/-- The package manager of a predefined command. -/
def PackageManager.ofData? : Data → Option PackageManager :=
  Data.wordOver? Data.isNullOrEmpty all word

/-- A predefined command. -/
def Predefined.ofData? (data : Data) : Option Predefined := do
  let (kind, others) ← kind? data
  match kind with
  | "pin_version" =>
    let fields ← (others.named ["manager", "version"]).record? ["manager", "version"] true
    let manager ← fields.required? "manager" PackageManager.ofData?
    let version ← fields.required? "version" Data.text?
    return pinVersion manager version
  | "install" =>
    let fields ← (others.named ["manager", "production"]).record? ["manager", "production"] true
    let manager ← fields.required? "manager" PackageManager.ofData?
    let production ← fields.flag? "production"
    return install manager production
  | _ => none

/-- The protocol of a port. -/
def Protocol.ofData? : Data → Option Protocol := Data.word? all word

/-- An open port: its number, or a record with a protocol. -/
def exposedOfData? : Data → Option (Nat × Protocol) :=
  Data.resolved? (Data.either? (fun data => data.number32?.map fun port => (port, .tcp))
    fun data => do
      let fields ← data.record? ["port", "protocol"] false
      let port ← fields.required? "port" Data.number32?
      let protocol ← fields.getD? "protocol" Protocol.ofData? .tcp
      return (port, protocol))

/-- The sources of a copy: one path, or a list. -/
def sourcesOfData? : Data → Option (List String) :=
  Data.resolved? (Data.either? (fun data => data.text?.map fun path => [path])
    (Data.list? Data.text?))

/-- A copy. -/
def FileCopy.Spec.ofData? (data : Data) : Option FileCopy.Spec := do
  let fields ← data.record? ["src", "dest", "from", "chown"] true
  let sources ← fields.required? "src" sourcesOfData?
  let destination ← fields.required? "dest" Data.text?
  let stage ← fields.text? "from"
  let owner ← fields.text? "chown"
  return ⟨sources, destination, stage, owner⟩

/-- An account. -/
def Account.Spec.ofData? (data : Data) : Option Account.Spec := do
  let fields ← data.record?
    ["name", "group", "ensure_group", "ensure_user", "assign_group"] true
  let name ← fields.required? "name" Data.text?
  let group ← fields.text? "group"
  let ensuresGroup ← fields.flag? "ensure_group"
  let ensuresUser ← fields.flag? "ensure_user"
  let assignsGroup ← fields.flag? "assign_group"
  return ⟨name, group, ensuresGroup, ensuresUser, assignsGroup⟩

/-- A stage as a definition gives it. -/
structure StageDefinition where
  image : Option String
  knownAs : Option String
  isBase : Bool
  globalArgs : OrderedMap (Option String)
  args : OrderedMap (Option String)
  environment : OrderedMap String
  exposed : List (Nat × Protocol)
  volumes : List String
  workdir : Option String
  copies : List FileCopy.Spec
  runs : List String
  predefined : List Predefined
  buildUser : Option Account.Spec
  serviceUser : Option Account.Spec
  entrypoint : Option Command
  command : Option Command
  deriving DecidableEq

namespace StageDefinition

/-- Reads a stage. -/
def ofData? (data : Data) : Option StageDefinition := do
  let fields ← data.record?
    ["from", "alias", "base", "global_args", "args", "env", "expose", "volumes", "workdir", "copy",
      "run", "macros", "build_user", "service_user", "entrypoint", "cmd"] true
  let image ← fields.text? "from"
  let knownAs ← fields.text? "alias"
  let isBase ← fields.flag? "base"
  let globalArgs ← fields.map? "global_args" (Data.optional? Data.text?)
  let args ← fields.map? "args" (Data.optional? Data.text?)
  let environment ← fields.textMap? "env"
  let exposed ← fields.list? "expose" exposedOfData?
  let volumes ← fields.texts? "volumes"
  let workdir ← fields.text? "workdir"
  let copies ← fields.list? "copy" FileCopy.Spec.ofData?
  let runs ← fields.texts? "run"
  let predefined ← fields.list? "macros" Predefined.ofData?
  let buildUser ← fields.optional? "build_user" Account.Spec.ofData?
  let serviceUser ← fields.optional? "service_user" Account.Spec.ofData?
  let entrypoint ← fields.optional? "entrypoint" Command.ofData?
  let command ← fields.optional? "cmd" Command.ofData?
  return ⟨image, knownAs, isBase, globalArgs, args, environment, exposed, volumes, workdir, copies,
    runs, predefined, buildUser, serviceUser, entrypoint, command⟩

/-- Sets the base image of a definition; a name for the stage needs one. -/
def applyBase (definition : StageDefinition) : Edit Stage Unit := do
  let stage ← get
  match definition.image, definition.knownAs with
  | some image, knownAs => Stage.setBase image knownAs
  | none, some _ => throw (.missing stage.owner "from")
  | none, none => return

/-- Applies every field of a definition. -/
def apply (definition : StageDefinition) : Edit Stage Unit := do
  Stage.setIsBase definition.isBase
  definition.globalArgs.toList.forM fun (name, value) => Stage.setGlobalArg name value
  definition.applyBase
  if let some account := definition.buildUser then Stage.setBuildUser (← Account.ofSpec account)
  if let some account := definition.serviceUser then
    Stage.setServiceUser (← Account.ofSpec account)
  definition.args.toList.forM fun (name, value) => Stage.setArg name value
  definition.environment.toList.forM fun (key, value) => Stage.setEnv key value
  definition.exposed.forM fun (port, protocol) => Stage.addPort port protocol
  definition.volumes.forM Stage.addVolume
  if let some path := definition.workdir then Stage.setWorkdir path
  definition.copies.forM fun copy => do Stage.addCopy (← FileCopy.ofSpec copy)
  definition.runs.forM Stage.addRun
  definition.predefined.forM Stage.addPredefined
  if let some command := definition.entrypoint then Stage.setEntrypoint command
  if let some command := definition.command then Stage.setCommand command

end StageDefinition

/-- The stages of a script as one document gives them. -/
structure ScriptDefinition where
  stages : OrderedMap StageDefinition
  deriving DecidableEq

namespace ScriptDefinition

/-- Reads a definition. -/
def ofData? (data : Data) : Option ScriptDefinition := do
  let fields ← data.record? ["stages"] true
  let stages ← fields.map? "stages" StageDefinition.ofData?
  return ⟨stages⟩

/-- Builds a stage and registers it. -/
def addStage (name : String) (definition : StageDefinition) : Edit Template Unit := do
  let stage ← Stage.create name
  let (_, built) ← definition.apply.onCopy stage
  Template.insert built

/-- The template of a definition; stages keep their document order. -/
def build (definition : ScriptDefinition) : Except Fault Template := do
  let (_, built) ← (definition.stages.toList.forM fun (name, stage) => addStage name stage).onCopy
    Template.empty
  return built

end ScriptDefinition

end ContainerStack.Script
