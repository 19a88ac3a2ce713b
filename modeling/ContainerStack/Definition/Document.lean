import ContainerStack.Definition.Script
import ContainerStack.Definition.Stack
import ContainerStack.Yaml.Document

/-!
**Definitions as documents.**

A definition is written as one YAML document. In a directory it is looked for under a usual name,
and the relative paths of a stack are those of the directory of its file.

* `StackDefinition.ofText`, `ScriptDefinition.ofText`: the definition in a text.
* `Stack.load`, `Template.load`: what the definition in a file describes.
-/

namespace ContainerStack

/-- The content of a file. -/
def FileTree.content (tree : FileTree) (path : String) : Except Fault String :=
  match tree.read? path with
  | some content => .ok content
  | none => .error (.io s!"'{path}' is not a readable file")

/-- The definition of a stack that a text holds. -/
def StackDefinition.ofText (text : String) : Except Fault StackDefinition :=
  match (Data.ofYaml? text).bind ofData? with
  | some definition => .ok definition
  | none => .error (.unreadable "stack definition")

namespace Stack

/-- The usual names of stack definitions, the preferred one first. -/
def usualNames : List String := ["stack.yaml", "stack.yml"]

/-- The stack that the definition in a file describes. -/
def load (tree : FileTree) (path : String) : Except Fault Stack := do
  let text ← tree.content path
  let definition ← StackDefinition.ofText text
  definition.build (.ofTree tree (tree.directoryOf path))

end Stack

namespace Script

/-- The definition of a build script that a text holds. -/
def ScriptDefinition.ofText (text : String) : Except Fault ScriptDefinition :=
  match (Data.ofYaml? text).bind ofData? with
  | some definition => .ok definition
  | none => .error (.unreadable "build definition")

namespace Template

/-- The usual names of build definitions, the preferred one first. -/
def usualNames : List String := ["build.yaml", "build.yml"]

/-- The template that the definition in a file describes. -/
def load (tree : FileTree) (path : String) : Except Fault Template := do
  let text ← tree.content path
  let definition ← ScriptDefinition.ofText text
  definition.build

end Template

end Script

end ContainerStack
