import ContainerStack.Proofs.Outline
import ContainerStack.Proofs.Rendering
import ContainerStack.Proofs.TextLines

/-!
**The lines of a manifest.**

A manifest is a line for the services, the lines of every service in the order of rendering, and the
lines of the other sections. A service depends on its stack through the variables and files of all
services, and through the access modes of volumes, which show up in the items of its mounts only.

* `Manifest.linesOf`: the lines that steps write at a depth.
* `Manifest.serviceLines`: the lines of a service, given the item of every mount.
* `Manifest.lines`, `hasLines_text`: the lines of a manifest, and of its text.
* `Manifest.IsBlock`, `isBlock_service`: the line of a name with deeper lines after it.
* `Manifest.sectionLines_flush`: what follows the services is not deeper.
-/

namespace ContainerStack

open Yaml
open Yaml.Reading
open Yaml.Outline
open Yaml.Step (layoutAll)

namespace Manifest

/-! ### Lines of steps -/

section Lines

variable {depth : Nat}

/-- The lines that steps write at a depth. -/
def linesOf (depth : Nat) (steps : List Step) : List String :=
  (layoutAll depth steps).lines.map Line.written

theorem linesOf_append {first second : List Step} (written : WrittenAll depth (first ++ second)) :
    linesOf depth (first ++ second) = linesOf depth first ++ linesOf depth second := by
  have succeeds := written.succeeds
  rw [layoutAll_append] at succeeds
  obtain ⟨_, _, lines⟩ := append_succeeds succeeds
  rw [linesOf, layoutAll_append, lines, List.map_append]
  rfl

theorem linesOf_cons {step : Step} {rest : List Step} (written : WrittenAll depth (step :: rest)) :
    linesOf depth (step :: rest) = linesOf depth [step] ++ linesOf depth rest :=
  @linesOf_append depth [step] rest written

theorem linesOf_block (key : String) (body : List Step) :
    linesOf depth [.block key body] =
      (Emitter.indentation depth ++ (key ++ ":")) :: linesOf (depth + 1) body := by
  rw [linesOf, layoutAll_singleton, Step.layout]
  rfl

theorem linesOf_items (items : List String) :
    linesOf depth (items.map .item) =
      items.map fun item => Emitter.indentation depth ++ ("- " ++ Scalar.write item) := by
  induction items with
  | nil => rfl
  | cons item rest ih => exact congrArg (_ :: ·) ih

theorem indent_written (line : Line) :
    Text.indent line.written = 2 * line.depth + Text.indent line.text :=
  Text.indent_spaces (2 * line.depth) line.text

/-- **No line of steps that are read is less deep than the steps.** -/
theorem le_indent {steps : List Step} {parts : List Part} (reads : Reads steps parts) :
    ∀ line ∈ linesOf depth steps, 2 * depth ≤ Text.indent line := by
  intro written member
  obtain ⟨line, listed, rfl⟩ := List.mem_map.mp member
  have deep := reads.readAs.deep depth line listed
  rw [indent_written]
  omega

/-- The written form of a key begins with no space. -/
theorem indent_keyOf {written key : String} (keyOf : KeyOf written.toList key) (rest : String) :
    Text.indent (written ++ rest) = 0 := by
  have read := keyOf [] rfl
  refine Text.indent_append ?_ rest
  cases chars : written.toList with
  | nil =>
    rw [chars] at read
    cases read
  | cons char more =>
    rw [chars] at read
    simpa using (begins_of_scalar read).1

theorem indent_key {key : String} (plain : Plain key.toList) : Text.indent (key ++ ":") = 0 :=
  indent_keyOf (keyOf_plain plain) ":"

/-- The line of a name is indented by one level. -/
theorem indent_entity {name : String} (named : isEntityName name = true) :
    Text.indent ("  " ++ name ++ ":") = 2 := by
  rw [String.append_assoc]
  exact (Text.indent_spaces 2 _).trans (by rw [indent_key (plain_of_isEntityName named)])

end Lines

/-! ### Lines of a service -/

/-- The fields of a service that are written above its mounts. -/
def fieldsAbove (stack : Stack) (service : Service) : List Step :=
  (sourceSteps service).toOption.getD [] ++ Step.quotedIfSome "user" service.user ++
    commandSteps "entrypoint" service.entrypoint ++ commandSteps "command" service.command ++
    restartSteps service.restart ++ dependencySteps service.dependsOn ++
    Step.mapBlock "environment" (mergedEnvironment stack service).toList ++
    Step.itemsBlock "env_file" (mergedEnvFiles stack service) ++ portSteps service.ports

/-- The fields of a service that are written below its mounts. -/
def fieldsBelow (service : Service) : List Step :=
  networkSteps service ++ Step.itemsBlock "external_links" service.externalLinks ++
    Step.itemsBlock "secrets" service.secrets ++
    Step.blockUnlessEmpty "configs" (service.configs.map configSteps) ++
    healthcheckSteps service.healthcheck ++ loggingSteps service.logging ++
    deploySteps service.deploy ++ Step.itemsBlock "security_opt" service.securityOptions

/-- The item of a mount in the list of a service. -/
def mountItem (stack : Stack) (mount : Mount) : String :=
  "      - " ++ Scalar.write (mountText stack mount)

/-- The list of the mounts of a service, which is left out if there is none. -/
def mountLines (item : Mount → String) (service : Service) : List String :=
  if service.mounts.isEmpty then [] else "    volumes:" :: service.mounts.map item

/-- The lines of a service: its name, and one level deeper its fields, with its mounts among
them. -/
def serviceLines (stack : Stack) (item : Mount → String) (service : Service) : List String :=
  ("  " ++ service.name ++ ":") :: (linesOf 2 (fieldsAbove stack service) ++
    mountLines item service ++ linesOf 2 (fieldsBelow service))

section Services

variable {stack : Stack} {service : Service} {step : Step}

theorem serviceSteps_parts (made : serviceSteps stack service = .ok step) :
    step = .block service.name (fieldsAbove stack service ++
      Step.itemsBlock "volumes" (service.mounts.map (mountText stack)) ++ fieldsBelow service) := by
  obtain ⟨source, sourced, made⟩ := Edit.bind_eq_ok.mp made
  obtain ⟨mounts, mounted, same⟩ := Edit.bind_eq_ok.mp made
  cases same
  rw [fieldsAbove, fieldsBelow, sourced, ← mountSteps_eq_ok mounted]
  simp only [Except.toOption, Option.getD_some, List.append_assoc]

theorem linesOf_mounts (stack : Stack) (service : Service) :
    linesOf 2 (Step.itemsBlock "volumes" (service.mounts.map (mountText stack))) =
      mountLines (mountItem stack) service := by
  unfold Step.itemsBlock mountLines
  rw [List.isEmpty_map]
  split
  · rfl
  · rw [linesOf_block, linesOf_items, List.map_map]
    rfl

theorem linesOf_service (sound : stack.Sound) (registered : service ∈ stack.services.toList)
    (made : serviceSteps stack service = .ok step) :
    linesOf 1 [step] = serviceLines stack (mountItem stack) service := by
  have written : WrittenAll 1 [step] := .of_reads (reads_service sound registered made)
  rw [serviceSteps_parts made] at written ⊢
  have body := written.body
  rw [linesOf_block, linesOf_append body, linesOf_append body.of_append.1, linesOf_mounts,
    serviceLines, String.append_assoc]
  rfl

/-- The line of a name, with deeper lines after it. -/
def IsBlock (name : String) (lines : List String) : Prop :=
  ∃ deeper, lines = ("  " ++ name ++ ":") :: deeper ∧ ∀ line ∈ deeper, 2 < Text.indent line

/-- **The lines of a service are one block.** -/
theorem isBlock_service (sound : stack.Sound) (registered : service ∈ stack.services.toList)
    (made : serviceSteps stack service = .ok step) :
    IsBlock service.name (serviceLines stack (mountItem stack) service) := by
  obtain ⟨body, fields, same, writes, _⟩ := writes_service sound registered made
  have lines := linesOf_service sound registered made
  rw [same, linesOf_block] at lines
  refine ⟨linesOf 2 body, ?_, fun line member => ?_⟩
  · rw [← lines, String.append_assoc]
    rfl
  · have deep := le_indent writes.reads line member
    omega

/-- No line of a service is less deep than its name. -/
theorem le_indent_service (sound : stack.Sound) (registered : service ∈ stack.services.toList)
    (made : serviceSteps stack service = .ok step) :
    ∀ line ∈ serviceLines stack (mountItem stack) service, 2 ≤ Text.indent line := by
  rw [← linesOf_service sound registered made]
  exact le_indent (reads_service sound registered made)

/-- The line of a name is not deeper than that. -/
theorem indent_name (sound : stack.Sound) (registered : service ∈ stack.services.toList) :
    Text.indent ("  " ++ service.name ++ ":") = 2 :=
  indent_entity (sound.services.of_mem registered).1.coherent.named

end Services

/-! ### Lines of a manifest -/

/-- The sections of other entities. -/
def sectionSteps (stack : Stack) : List Step :=
  Step.blockUnlessEmpty "volumes" (stack.volumes.toList.map volumeSteps) ++
    Step.blockUnlessEmpty "networks" (stack.networks.toList.map networkEntrySteps) ++
    Step.blockUnlessEmpty "secrets" (stack.secrets.toList.map secretSteps) ++
    Step.blockUnlessEmpty "configs" (stack.configs.toList.map configEntrySteps)

/-- The lines of a manifest. -/
def lines (stack : Stack) : List String :=
  "services:" :: (stack.renderOrder.flatMap (serviceLines stack (mountItem stack)) ++
    linesOf 0 (sectionSteps stack))

section Texts

variable {stack : Stack}

theorem steps_eq_ok {written : List Step} (made : steps stack = .ok written) :
    ∃ services, stack.renderOrder.mapM (serviceSteps stack) = .ok services ∧
      written = .block "services" services :: sectionSteps stack := by
  unfold steps at made
  split at made
  · cases made
  · obtain ⟨services, served, same⟩ := Edit.bind_eq_ok.mp made
    cases same
    exact ⟨services, served, rfl⟩

theorem linesOf_services (sound : stack.Sound) {order : List Service}
    (registered : ∀ service ∈ order, service ∈ stack.services.toList) {services : List Step}
    (served : List.Forall₂ (fun service step => serviceSteps stack service = .ok step)
      order services) (written : WrittenAll 1 services) :
    linesOf 1 services = order.flatMap (serviceLines stack (mountItem stack)) := by
  induction served with
  | nil => rfl
  | @cons service step rest others here _ ih =>
    have later := ih (fun other member => registered other (List.mem_cons_of_mem service member))
      written.of_cons.2
    rw [linesOf_cons written, List.flatMap_cons, later,
      linesOf_service sound (registered service List.mem_cons_self) here]

/-- Nothing is being rendered when the manifest is. -/
theorem renderManifest_eq (sound : stack.Sound) :
    (Stack.renderManifest.apply stack).1 = Manifest.text stack := by
  rw [Stack.renderManifest_apply, if_neg (by rw [sound.idle]; nofun)]

/-- **The steps of a manifest write its lines.** -/
theorem linesOf_steps (sound : stack.Sound) {written : List Step}
    (made : steps stack = .ok written) : linesOf 0 written = lines stack := by
  obtain ⟨parts, reads, _⟩ := reads_steps sound made
  have all : WrittenAll 0 written := .of_reads reads
  obtain ⟨services, served, same⟩ := steps_eq_ok made
  rw [same] at all ⊢
  rw [linesOf_cons all, linesOf_block, linesOf_services sound
    (fun service member => sound.mem_renderOrder.mp member) (Edit.mapM_eq_ok.mp served)
    all.of_cons.1.body]
  rfl

/-- **The text of a manifest has its lines.** -/
theorem hasLines_text (sound : stack.Sound) {text : String}
    (rendered : Manifest.text stack = .ok text) : Text.HasLines text (lines stack) := by
  obtain ⟨written, made, rendered⟩ := Edit.bind_eq_ok.mp rendered
  obtain ⟨parts, reads, _⟩ := reads_steps sound made
  have all : WrittenAll 0 written := .of_reads reads
  rw [Step.render_layout all.nested, all.succeeds] at rendered
  cases rendered
  have unbroken : (layoutAll 0 written).Unbroken := fun line listed =>
    (onOneLine_iff.mp (reads.readAs.whole 0 line listed)).1
  rw [← linesOf_steps sound made]
  exact unbroken.hasLines

/-- What is written was made, and is written to its end. -/
theorem parts_of_text (sound : stack.Sound) {text : String}
    (rendered : Manifest.text stack = .ok text) :
    (∀ service ∈ stack.renderOrder, ∃ step, serviceSteps stack service = .ok step) ∧
      WrittenAll 0 (sectionSteps stack) := by
  obtain ⟨written, made, _⟩ := Edit.bind_eq_ok.mp rendered
  obtain ⟨_, reads, _⟩ := reads_steps sound made
  obtain ⟨services, served, rfl⟩ := steps_eq_ok made
  have all : WrittenAll 0 (.block "services" services :: sectionSteps stack) := .of_reads reads
  exact ⟨Edit.exists_of_mapM_eq_ok served, all.of_cons.2⟩

/-! ### What follows the services -/

/-- The first line is not indented, if there is one. -/
def Flush (lines : List String) : Prop := ∀ line ∈ lines.head?, Text.indent line = 0

theorem Flush.append {first second : List String} (one : Flush first) (two : Flush second) :
    Flush (first ++ second) := by
  cases first with
  | nil => exact two
  | cons line rest => exact one

theorem flush_section {key : String} (plain : Plain key.toList) (body : List Step) :
    Flush (linesOf 0 (Step.blockUnlessEmpty key body)) := by
  unfold Step.blockUnlessEmpty
  split
  · nofun
  · rw [linesOf_block]
    rintro line ⟨⟩
    exact (Text.indent_spaces 0 _).trans (by rw [indent_key plain])

/-- **What follows the services is not indented.** -/
theorem flush_sections (written : WrittenAll 0 (sectionSteps stack)) :
    Flush (linesOf 0 (sectionSteps stack)) := by
  obtain ⟨others, _⟩ := written.of_append
  rw [sectionSteps, linesOf_append written, linesOf_append others,
    linesOf_append others.of_append.1]
  exact (flush_section (by decide) _).append (flush_section (by decide) _)
    |>.append (flush_section (by decide) _)
    |>.append (flush_section (by decide) _)

end Texts

end Manifest

end ContainerStack
