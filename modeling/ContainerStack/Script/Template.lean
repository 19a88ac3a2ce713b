import ContainerStack.Script.Stage

/-!
**Build scripts of several stages.**

A template holds stages under their names. Its script shows each stage under a banner, with an empty
line between two stages.

* `Template.addStage`, `Template.insert`, `Template.editStage`: the edits.
* `Template.render`: the text of the script, as a rendering of the template and of each stage.
-/

namespace ContainerStack.Script

/-- Stages under their names. -/
structure Template where
  stages : Registry Stage
  phase : RenderPhase
  deriving DecidableEq

namespace Template

/-- The template without stages. -/
def empty : Template := ⟨.empty, .idle⟩

/-- A copy, in which nothing is being rendered. -/
def copy (template : Template) : Template := ⟨template.stages.map Stage.copy, .idle⟩

/-- Registers a stage. -/
def insert (stage : Stage) : Edit Template Unit := do
  let template ← get
  let stages ← template.stages.register stage
  set { template with stages := stages }

/-- Registers a stage without instructions. -/
def addStage (name : String) : Edit Template Unit := do
  insert (← Stage.create name)

/-- Edits a stage in its place, if there is one of the name. What a refused edit changed before
stays changed. -/
def editStage {α : Type} (name : String) (edit : Edit Stage α) : Edit Template (Option α) := do
  let template ← get
  match template.stages.get? name with
  | none => return none
  | some stage =>
    let (answer, left) := edit.apply stage
    set { template with stages := template.stages.put name left }
    let value ← answer
    return some value

/-- Renders a stage under its banner. -/
def renderSection : Edit Stage String := do
  let stage ← get
  let text ← Stage.render
  return (Instruction.comment ("---- stage: " ++ stage.name ++ " ----")).text ++ "\n" ++ text

/-- Renders all stages in order, up to the first that cannot be rendered. -/
def renderStages : Edit Template String := do
  let template ← get
  if template.stages.isEmpty then throw (.obstructed .noStages)
  let (answer, visited) := template.stages.visit renderSection
  set { template with stages := visited }
  let sections ← answer
  return String.intercalate "\n" sections

/-- Renders the script. -/
def render : Edit Template String :=
  RenderPhase.guarded Template.phase (fun phase template => { template with phase := phase })
    "template" renderStages

/-- Renders the script and hands it to a writer, which may refuse it. -/
def write {α : Type} (writer : String → Except Fault α) : Edit Template α := do
  let script ← render
  writer script

end Template

end ContainerStack.Script
