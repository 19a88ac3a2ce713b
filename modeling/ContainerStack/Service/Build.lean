import ContainerStack.Lookup
import ContainerStack.OrderedMap
import ContainerStack.Validation

/-!
**Building the image of a service.**

A build has a context and may name a build file, a target stage, arguments and keys. Every key is a
file that has to exist.
-/

namespace ContainerStack

/-- How the image of a service is built. -/
structure Build where
  context : String
  dockerfile : Option String
  target : Option String
  args : OrderedMap String
  ssh : OrderedMap String
  deriving DecidableEq

namespace Build

/-- A build as a definition gives it. -/
structure Spec where
  context : Option String
  dockerfile : Option String
  target : Option String
  args : OrderedMap String
  ssh : OrderedMap String
  deriving DecidableEq

/-- The definition that gives a context only. -/
def Spec.ofContext (context : String) : Spec := ⟨some context, none, none, .empty, .empty⟩

/-- The build of a context. -/
def ofContext (context : String) : Except Fault Build := do
  Validation.present "build" "context" context
  return ⟨context, none, none, .empty, .empty⟩

/-- Names the build file. -/
def withDockerfile (build : Build) (dockerfile : String) : Except Fault Build := do
  Validation.present "build" "dockerfile" dockerfile
  return { build with dockerfile := some dockerfile }

/-- Names the target stage. -/
def withTarget (build : Build) (target : String) : Except Fault Build := do
  Validation.present "build" "target" target
  return { build with target := some target }

/-- Sets an argument; the last value wins. -/
def withArg (build : Build) (key value : String) : Except Fault Build := do
  Validation.variableName key
  return { build with args := build.args.insert key value }

/-- Makes a key available to the build; its file has to exist. -/
def withSshKey (build : Build) (id path : String) (lookup : EntityLookup) :
    Except Fault Build := do
  Validation.present "build ssh" "id" id
  Validation.ensure (lookup.pathExists path) (.dangling s!"build ssh key '{id}'" .file path)
  return { build with ssh := build.ssh.insert id path }

/-- The build of a definition. -/
def ofSpec (spec : Spec) (lookup : EntityLookup) : Except Fault Build :=
  match spec.context with
  | none => .error (.missing "build" "context")
  | some context => do
    let build ← ofContext context
    let build ← match spec.dockerfile with
      | some dockerfile => build.withDockerfile dockerfile
      | none => .ok build
    let build ← match spec.target with
      | some target => build.withTarget target
      | none => .ok build
    let build ← spec.args.toList.foldlM (fun build (key, value) => build.withArg key value) build
    spec.ssh.toList.foldlM (fun build (id, path) => build.withSshKey id path lookup) build

/-- Whether the build gives its context only. -/
def isPlain (build : Build) : Bool :=
  build.dockerfile.isNone && build.target.isNone && build.args.isEmpty && build.ssh.isEmpty

end Build

end ContainerStack
