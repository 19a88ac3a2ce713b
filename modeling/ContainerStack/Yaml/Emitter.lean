import ContainerStack.Edit
import ContainerStack.Yaml.Scalar

/-!
**Writing nested lines.**

An `Emitter` holds the lines written so far, the depth of nesting and whether the next line opens an
item of a sequence. A `Step` writes lines or nests further steps; a step that fails ends every step
around it, and what was written stays.

* `Step.run`, `Step.runAll`: runs steps on an emitter.
* `Emitter.text`: the lines with their ends.
* `Step.render`: the text of steps run from the start.
-/

namespace ContainerStack.Yaml

/-- The lines written so far, the depth of nesting, and whether an item is to be opened. -/
structure Emitter where
  lines : List String
  depth : Nat
  pendingItem : Bool
  deriving DecidableEq, Repr

namespace Emitter

/-- The emitter that has written nothing. -/
def empty : Emitter := ⟨[], 0, false⟩

/-- Two spaces for each level. -/
def indentation (depth : Nat) : String := String.ofList (List.replicate (2 * depth) ' ')

/-- One level deeper. -/
def deeper (emitter : Emitter) : Emitter := { emitter with depth := emitter.depth + 1 }

/-- One level less deep; the outermost level stays. -/
def shallower (emitter : Emitter) : Emitter := { emitter with depth := emitter.depth - 1 }

/-- Writes a line. A line that opens an item carries the marker one level less deep. -/
def line (text : String) (emitter : Emitter) : Emitter :=
  let written := if emitter.pendingItem then indentation (emitter.depth - 1) ++ "- " ++ text
    else indentation emitter.depth ++ text
  { emitter with lines := emitter.lines ++ [written], pendingItem := false }

/-- Writes an empty line; an item to be opened stays to be opened. -/
def blank (emitter : Emitter) : Emitter := { emitter with lines := emitter.lines ++ [""] }

/-- The lines, each with its end. -/
def text (emitter : Emitter) : String := String.join (emitter.lines.map (· ++ "\n"))

end Emitter

/-- One step of writing. -/
inductive Step where
  | deeper
  | shallower
  | line (text : String)
  | blank
  | comment (text : String)
  | key (key : String)
  /-- A key with a value that is quoted where it has to be. -/
  | scalar (key value : String)
  /-- A key with a value that is always quoted. -/
  | quoted (key value : String)
  /-- A key with a value as it is. -/
  | raw (key value : String)
  | item (value : String)
  | quotedItem (value : String)
  /-- A key with steps one level deeper. -/
  | block (key : String) (body : List Step)
  /-- An item of a sequence whose first line carries the marker. -/
  | itemBlock (body : List Step)
  /-- A key with one line for each name and quoted value. -/
  | quotedMap (key : String) (entries : List (String × String))
  | fail (fault : Fault)

namespace Step

/-- One line of a map of quoted values. -/
def mapLine (entry : String × String) : String :=
  Scalar.write entry.1 ++ ": " ++ Scalar.quote entry.2

/-- Writes a line. -/
def writeLine (text : String) : Edit Emitter Unit := modify (Emitter.line text)

mutual

/-- Runs a step. -/
def run : Step → Edit Emitter Unit
  | deeper => modify Emitter.deeper
  | shallower => modify Emitter.shallower
  | line text => writeLine text
  | blank => modify Emitter.blank
  | comment text => writeLine ("# " ++ text)
  | key name => writeLine (name ++ ":")
  | scalar name value => writeLine (name ++ ": " ++ Scalar.write value)
  | quoted name value => writeLine (name ++ ": " ++ Scalar.quote value)
  | raw name value => writeLine (name ++ ": " ++ value)
  | item value => writeLine ("- " ++ Scalar.write value)
  | quotedItem value => writeLine ("- " ++ Scalar.quote value)
  | block name body => do
    writeLine (name ++ ":")
    modify Emitter.deeper
    (runAll body).within Emitter.shallower
  | itemBlock body => do
    modify fun emitter => { emitter.deeper with pendingItem := true }
    (runAll body).within fun emitter => { emitter.shallower with pendingItem := false }
  | quotedMap name entries => do
    writeLine (name ++ ":")
    modify Emitter.deeper
    (entries.forM fun entry => writeLine (mapLine entry)).within Emitter.shallower
  | fail fault => throw fault

/-- Runs steps in order, up to the first that fails. -/
def runAll : List Step → Edit Emitter Unit
  | [] => pure ()
  | step :: rest => do
    step.run
    runAll rest

end

/-- The text of steps that are run from the start. -/
def render (steps : List Step) : Except Fault String :=
  match (runAll steps).apply .empty with
  | (.ok (), emitter) => .ok emitter.text
  | (.error fault, _) => .error fault

/-- A block with one item for each string, unless there is none. -/
def itemsBlock (key : String) (items : List String) : List Step :=
  if items.isEmpty then [] else [block key (items.map item)]

/-- A block of quoted values, unless there is none. -/
def mapBlock (key : String) (entries : List (String × String)) : List Step :=
  if entries.isEmpty then [] else [quotedMap key entries]

/-- A block, unless its body is empty. -/
def blockUnlessEmpty (key : String) (body : List Step) : List Step :=
  if body.isEmpty then [] else [block key body]

/-- A block for a value, if there is one. -/
def blockIfSome {α : Type} (key : String) (body : α → List Step) (value : Option α) : List Step :=
  match value with
  | some given => [block key (body given)]
  | none => []

/-- A key with its value, if there is one. -/
def scalarIfSome (key : String) (value : Option String) : List Step :=
  match value with
  | some text => [scalar key text]
  | none => []

/-- A key with its value in quotes, if there is one. -/
def quotedIfSome (key : String) (value : Option String) : List Step :=
  match value with
  | some text => [quoted key text]
  | none => []

/-- A key with its value as it is, if there is one. -/
def rawIfSome (key : String) (value : Option String) : List Step :=
  match value with
  | some text => [raw key text]
  | none => []

end Step

end ContainerStack.Yaml
