import ContainerStack.Command
import ContainerStack.Text.Json

/-!
**Instructions of build scripts.**

A build script is a list of instructions, each of them one line but for commands of several lines,
which are joined by a backslash and an indented new line.

* `Instruction.text`: an instruction as it is written.
* `Instruction.wordText`: a value that is read back as one word.
-/

namespace ContainerStack.Script

/-- The protocol of a port. -/
inductive Protocol where
  | tcp
  | udp
  deriving DecidableEq, Repr

namespace Protocol

/-- The word for a protocol. -/
def word : Protocol → String
  | tcp => "tcp"
  | udp => "udp"

/-- All protocols. -/
def all : List Protocol := [tcp, udp]

end Protocol

/-- Files that are copied into an image: out of an earlier stage if one is named, and given to an
owner if one is named. -/
structure FileCopy where
  sources : List String
  destination : String
  stage : Option String
  owner : Option String
  deriving DecidableEq, Repr

namespace FileCopy

/-- Copies sources, of which there is at least one, to a destination. -/
def ofPaths (sources : List String) (destination : String) : Except Fault FileCopy := do
  Validation.ensure (!sources.isEmpty) (.missing "copy" "src")
  sources.forM (Validation.token "copy src")
  Validation.token "copy dest" destination
  return ⟨sources, destination, none, none⟩

/-- Copies out of an earlier stage or an image. -/
def withStage (copy : FileCopy) (stage : String) : Except Fault FileCopy := do
  Validation.token "copy from" stage
  return { copy with stage := some stage }

/-- Gives the copies to an owner. -/
def withOwner (copy : FileCopy) (owner : String) : Except Fault FileCopy := do
  Validation.token "copy chown" owner
  return { copy with owner := some owner }

/-- A copy as a definition gives it. -/
structure Spec where
  sources : List String
  destination : String
  stage : Option String
  owner : Option String
  deriving DecidableEq, Repr

/-- The copy of a definition. -/
def ofSpec (spec : Spec) : Except Fault FileCopy := do
  let copy ← ofPaths spec.sources spec.destination
  let copy ← match spec.stage with
    | some stage => copy.withStage stage
    | none => .ok copy
  match spec.owner with
  | some owner => copy.withOwner owner
  | none => return copy

end FileCopy

/-- One instruction of a build script. -/
inductive Instruction where
  | comment (text : String)
  /-- The image that a stage starts from, and the name that the stage gets. -/
  | base (image : String) (knownAs : Option String)
  | argument (name : String) (value : Option String)
  | environment (key value : String)
  | expose (port : Nat) (protocol : Protocol)
  | volume (paths : List String)
  | workdir (path : String)
  | copy (files : FileCopy)
  | run (lines : List String)
  | user (name : String) (group : Option String)
  | entrypoint (command : Command)
  | command (command : Command)
  deriving DecidableEq, Repr

namespace Instruction

/-- Whether a value has to be quoted to be read back as one word. -/
def needsQuotes (value : String) : Bool :=
  value == "" || value.toList.any fun char =>
    Text.isBlank char || char == '"' || char == '\x27' || char == '\\' || char == '$' || char == '#'

/-- A value that is read back as one word: quoted where it has to be, with quotes and backslashes
escaped. -/
def wordText (value : String) : String :=
  if needsQuotes value then
    "\"" ++ String.ofList (value.toList.flatMap fun char =>
      if char = '"' ∨ char = '\\' then ['\\', char] else [char]) ++ "\""
  else value

/-- A command in the form in which it was given. -/
def commandText : Command → String
  | .shell line => line
  | .exec words => Text.Json.array words

/-- The parts of a copy after its keyword, each with a blank before it. -/
def copyText (files : FileCopy) : String :=
  let stage := match files.stage with
    | some name => " --from=" ++ name
    | none => ""
  let owner := match files.owner with
    | some name => " --chown=" ++ name
    | none => ""
  stage ++ owner ++ String.join (files.sources.map (" " ++ ·)) ++ " " ++ files.destination

/-- An instruction as it is written. -/
def text : Instruction → String
  | comment text => "# " ++ text
  | base image none => "FROM " ++ image
  | base image (some name) => "FROM " ++ image ++ " AS " ++ name
  | argument name none => "ARG " ++ name
  | argument name (some value) => "ARG " ++ name ++ "=" ++ wordText value
  | environment key value => "ENV " ++ key ++ "=" ++ wordText value
  | expose port .tcp => "EXPOSE " ++ toString port
  | expose port .udp => "EXPOSE " ++ toString port ++ "/udp"
  | volume paths => "VOLUME " ++ Text.Json.array paths
  | workdir path => "WORKDIR " ++ path
  | copy files => "COPY" ++ copyText files
  | run lines => "RUN " ++ String.intercalate " \\\n    " lines
  | user name none => "USER " ++ name
  | user name (some group) => "USER " ++ name ++ ":" ++ group
  | entrypoint given => "ENTRYPOINT " ++ commandText given
  | command given => "CMD " ++ commandText given

end Instruction

end ContainerStack.Script
