import ContainerStack.Registry
import ContainerStack.RenderPhase
import ContainerStack.Script.Account
import ContainerStack.Script.Predefined

/-!
**Stages of build scripts.**

A stage collects groups of instructions through edits and writes them in a fixed order, whatever the
order of the edits was: global arguments and the base image; the accounts, arguments and variables;
ports, volumes, working directory and copies; the commands and the ownership of files; the
dependencies, the entrypoint and the command.

* `Stage.create`: the stage without instructions.
* `Stage.setBase`, `Stage.addRun`, …: the edits.
* `Stage.instructions`: the instructions in the order in which they are written.
* `Stage.render`: the text of a stage, as a rendering of it.
-/

namespace ContainerStack.Script

/-- The image that a stage starts from, and the name that the stage gets. -/
structure BaseImage where
  image : String
  knownAs : Option String
  deriving DecidableEq, Repr

/-- A stage and its groups of instructions. -/
structure Stage where
  name : String
  isBase : Bool
  globalArgs : OrderedMap (Option String)
  base : Option BaseImage
  buildUser : Option Account
  serviceUser : Option Account
  args : OrderedMap (Option String)
  environment : OrderedMap String
  exposed : List (Nat × Protocol)
  volumes : List String
  workdir : Option String
  copies : List FileCopy
  runs : List String
  predefined : List Predefined
  entrypoint : Option Command
  command : Option Command
  phase : RenderPhase
  deriving DecidableEq

instance : Named Stage where
  kind := .stage
  name := Stage.name

namespace Stage

/-- The stage without instructions. -/
def create (name : String) : Except Fault Stage := do
  Validation.name .stage name
  return {
    name := name
    isBase := false
    globalArgs := .empty
    base := none
    buildUser := none
    serviceUser := none
    args := .empty
    environment := .empty
    exposed := []
    volumes := []
    workdir := none
    copies := []
    runs := []
    predefined := []
    entrypoint := none
    command := none
    phase := .idle }

/-- How faults call a stage. -/
def owner (stage : Stage) : String := "stage '" ++ stage.name ++ "'"

/-- A copy, which is not being rendered. -/
def copy (stage : Stage) : Stage := { stage with phase := .idle }

/-- Refuses an instruction of which the stage has one already. -/
def ensureSingle (stage : Stage) (isFree : Bool) (instruction : String) : Except Fault Unit :=
  Validation.ensure isFree (.duplicate .instruction (instruction ++ " in " ++ stage.owner))

/-! ### Base image and arguments -/

/-- Sets whether the stage is only built upon, so that it needs neither entrypoint nor command. -/
def setIsBase (isBase : Bool) : Edit Stage Unit :=
  modify fun stage => { stage with isBase := isBase }

/-- Accepts the name and the value of an argument. -/
def checkArgument (name : String) (value : Option String) : Except Fault Unit := do
  Validation.variableName name
  if let some text := value then Validation.singleLine "arg" text

/-- Sets an argument that stands before the base image; the last value wins. -/
def setGlobalArg (name : String) (value : Option String) : Edit Stage Unit := do
  checkArgument name value
  modify fun stage => { stage with globalArgs := stage.globalArgs.insert name value }

/-- Sets the base image, once. -/
def setBase (image : String) (knownAs : Option String) : Edit Stage Unit := do
  if let some name := knownAs then Validation.name .stage name
  Validation.token "from" image
  let stage ← get
  stage.ensureSingle stage.base.isNone "FROM"
  set { stage with base := some ⟨image, knownAs⟩ }

/-- Sets the account that the commands run as. -/
def setBuildUser (account : Account) : Edit Stage Unit :=
  modify fun stage => { stage with buildUser := some account }

/-- Sets the account that the container runs as. -/
def setServiceUser (account : Account) : Edit Stage Unit :=
  modify fun stage => { stage with serviceUser := some account }

/-- Sets an argument that stands after the base image; the last value wins. -/
def setArg (name : String) (value : Option String) : Edit Stage Unit := do
  checkArgument name value
  modify fun stage => { stage with args := stage.args.insert name value }

/-! ### Environment and files -/

/-- Sets an environment variable; the last value wins. -/
def setEnv (key value : String) : Edit Stage Unit := do
  Validation.variableName key
  Validation.singleLine "env" value
  modify fun stage => { stage with environment := stage.environment.insert key value }

/-- Opens a port, which lies between 1 and 65535; repeats are ignored. -/
def addPort (port : Nat) (protocol : Protocol) : Edit Stage Unit := do
  Validation.ensure (1 ≤ port && port ≤ 65535) (.outOfRange "expose" (.exposedPort port))
  let stage ← get
  if stage.exposed.contains (port, protocol) then return
  set { stage with exposed := stage.exposed ++ [(port, protocol)] }

/-- Adds a mount point; repeats are ignored. -/
def addVolume (path : String) : Edit Stage Unit := do
  Validation.containerPath "volume" path
  Validation.singleLine "volume" path
  let stage ← get
  if stage.volumes.contains path then return
  set { stage with volumes := stage.volumes ++ [path] }

/-- Sets the working directory; the last one wins. -/
def setWorkdir (path : String) : Edit Stage Unit := do
  Validation.containerPath "workdir" path
  Validation.singleLine "workdir" path
  modify fun stage => { stage with workdir := some path }

/-- Adds a copy. -/
def addCopy (files : FileCopy) : Edit Stage Unit :=
  modify fun stage => { stage with copies := stage.copies ++ [files] }

/-! ### Commands -/

/-- Adds a command. -/
def addRun (command : String) : Edit Stage Unit := do
  Validation.present "run" "command" command
  Validation.singleLine "run" command
  modify fun stage => { stage with runs := stage.runs ++ [command] }

/-- Adds a predefined command, each kind once. -/
def addPredefined (command : Predefined) : Edit Stage Unit := do
  command.validate
  let stage ← get
  stage.ensureSingle (!stage.predefined.any fun other => other.kind == command.kind)
    (command.kind.word ++ " macro")
  set { stage with predefined := stage.predefined ++ [command] }

/-- Accepts commands that are not empty and, as a line, stay one line. -/
def checkCommand (subject : String) (command : Command) : Except Fault Unit := do
  command.validate subject
  match command with
  | .shell line => Validation.singleLine subject line
  | .exec _ => .ok ()

/-- Sets the entrypoint, once. -/
def setEntrypoint (command : Command) : Edit Stage Unit := do
  checkCommand "entrypoint" command
  let stage ← get
  stage.ensureSingle stage.entrypoint.isNone "ENTRYPOINT"
  set { stage with entrypoint := some command }

/-- Sets the command, once. -/
def setCommand (command : Command) : Edit Stage Unit := do
  checkCommand "cmd" command
  let stage ← get
  stage.ensureSingle stage.command.isNone "CMD"
  set { stage with command := some command }

/-! ### Instructions -/

/-- The instructions of arguments. -/
def argInstructions (args : OrderedMap (Option String)) : List Instruction :=
  args.toList.map fun (name, value) => .argument name value

/-- The instructions of the predefined commands that run in a phase. -/
def predefinedRuns (stage : Stage) (phase : PredefinedPhase) : List Instruction :=
  (stage.predefined.filter fun command => command.phase == phase).map fun command =>
    .run [command.command]

/-- The paths that are given to the account of the container: the working directory, or else the
destinations of the copies. -/
def ownershipTargets (stage : Stage) : List String :=
  match stage.workdir with
  | some path => [path]
  | none =>
    stage.copies.foldl (fun targets files =>
      if targets.contains files.destination then targets else targets ++ [files.destination]) []

/-- The instructions that give the files to the account of the container and switch to it. -/
def serviceUserInstructions (stage : Stage) : List Instruction :=
  match stage.serviceUser with
  | none => []
  | some account =>
    let targets := stage.ownershipTargets
    let ownership : List Instruction :=
      if targets.isEmpty then []
      else
        (if stage.buildUser.isSome then [.user "root" none] else []) ++
          [.run ["chown -R " ++ account.owner ++ " " ++ String.intercalate " " targets]]
    ownership ++ [account.switch]

/-- The instructions in the order in which they are written. -/
def instructions (stage : Stage) : Except Fault (List Instruction) := do
  match stage.base with
  | none => .error (.missing stage.owner "from")
  | some base =>
    Validation.ensure (stage.isBase || stage.entrypoint.isSome || stage.command.isSome)
      (.obstructed (.noProcess stage.name))
    return argInstructions stage.globalArgs ++ [.base base.image base.knownAs] ++
      (stage.buildUser.bind Account.bootstrap).toList ++
      (stage.serviceUser.bind Account.bootstrap).toList ++
      (stage.buildUser.map Account.switch).toList ++
      argInstructions stage.args ++
      (stage.environment.toList.map fun (key, value) => .environment key value) ++
      (stage.exposed.map fun (port, protocol) => .expose port protocol) ++
      (if stage.volumes.isEmpty then [] else [.volume stage.volumes]) ++
      (stage.workdir.map Instruction.workdir).toList ++
      stage.copies.map Instruction.copy ++
      stage.predefinedRuns .beforeCommands ++
      (stage.runs.map fun line => .run [line]) ++
      stage.serviceUserInstructions ++
      stage.predefinedRuns .afterCommands ++
      (stage.entrypoint.map Instruction.entrypoint).toList ++
      (stage.command.map Instruction.command).toList

/-- The instructions as text, each with the end of its line. -/
def text (stage : Stage) : Except Fault String := do
  let sequence ← stage.instructions
  return String.join (sequence.map fun instruction => instruction.text ++ "\n")

/-- Renders a stage. -/
def render : Edit Stage String := do
  let stage ← get
  RenderPhase.guarded Stage.phase (fun phase stage => { stage with phase := phase }) stage.owner
    (stage.text : Except Fault String)

end Stage

end ContainerStack.Script
