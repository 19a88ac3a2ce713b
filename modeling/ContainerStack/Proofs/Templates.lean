import ContainerStack.Proofs.Stages

/-!
**Runs of operations on a template of a build script.**

* `Template.Operation`: one operation with its arguments. A stage that is inserted was built by
  setters, and an edit of a stage calls setters. It works on the stage in its place, so that what it
  changed before it was refused stays changed.
* `Template.Step`: what an operation can make of a template; `operation_step`.
* `Template.Reached`: what a run leads to from the template without stages; `Reached.sound`.
* `Template.render_apply`: a rendering shows the stages one by one, and changes nothing.
-/

namespace ContainerStack.Script

namespace Template

/-- One operation on a template. -/
inductive Operation where
  | addStage (name : String)
  | insert (stage : Stage) (built : stage.Built)
  | editStage (name : String) (change : Edit.Change Stage.Calls)
  | render

/-- What an operation does. -/
def Operation.edit : Operation → Edit Template Unit
  | .addStage name => Template.addStage name
  | .insert stage _ => Template.insert stage
  | .editStage name change => do
    let _ ← Template.editStage name change.edit
    return
  | .render => do
    let _ ← Template.render
    return

/-- The template after a run of operations, refused ones included. -/
def run (template : Template) (operations : List Operation) : Template :=
  operations.foldl (fun template operation => (operation.edit.apply template).2) template

/-! ### Renderings -/

section Visits

variable {α β : Type} {edit : Edit α β}

/-- **A visit that only asks** gives what every entry answers, up to the first refusal. -/
theorem visitEntries_asks (asks : edit.Asks) (entries : List (String × α)) :
    Registry.visitEntries edit entries =
      ((entries.map Prod.snd).mapM fun entity => (edit.apply entity).1, entries) := by
  induction entries with
  | nil => rfl
  | cons entry rest ih =>
    obtain ⟨name, entity⟩ := entry
    have unmoved := asks entity
    rw [Registry.visitEntries, ih, List.map_cons, List.mapM_cons]
    rcases ran : edit.apply entity with ⟨fault | answer, left⟩ <;> rw [ran] at unmoved <;>
      cases unmoved
    · rfl
    · cases (rest.map Prod.snd).mapM fun entity => (edit.apply entity).1 <;> rfl

theorem visit_asks (asks : edit.Asks) (registry : Registry α) :
    registry.visit edit =
      (registry.toList.mapM fun entity => (edit.apply entity).1, registry) := by
  unfold Registry.visit
  simp only [visitEntries_asks asks]
  rfl

end Visits

theorem renderSection_asks : renderSection.Asks :=
  Edit.Asks.bind (fun _ => rfl) fun _ => Edit.Asks.bind Stage.render_asks fun _ => .pure _

theorem renderStages_apply (template : Template) : renderStages.apply template =
    (if template.stages.isEmpty then .error (.obstructed .noStages)
      else do
        let sections ← template.stages.toList.mapM fun stage => (renderSection.apply stage).1
        return String.intercalate "\n" sections, template) := by
  unfold renderStages
  rw [Edit.apply_bind, Edit.apply_get]
  cases empty : template.stages.isEmpty with
  | true => simp [empty]
  | false =>
    simp only [empty, visit_asks renderSection_asks, Bool.false_eq_true, if_false]
    rw [Edit.apply_bind, Edit.apply_set]
    dsimp only
    rw [Edit.apply_bind, Edit.apply_lift]
    cases template.stages.toList.mapM fun stage => (renderSection.apply stage).1 <;> rfl

theorem render_asks : render.Asks :=
  RenderPhase.guarded_asks (fun template => by rw [renderStages_apply]) fun idle => by rw [← idle]

/-- **A rendering of an idle template** puts together what it shows of every stage. -/
theorem render_apply {template : Template} (idle : template.phase = .idle) :
    (render.apply template).1 =
      if template.stages.isEmpty then .error (.obstructed .noStages)
      else do
        let sections ← template.stages.toList.mapM fun stage => (renderSection.apply stage).1
        return String.intercalate "\n" sections := by
  unfold render
  rw [RenderPhase.guarded_apply idle, renderStages_apply]

/-! ### Steps -/

/-- What an operation can make of a template. -/
inductive Step (template : Template) : Template → Prop where
  | asked : Step template template
  | inserted (stage : Stage) (built : stage.Built)
    (vacant : template.stages.contains stage.name = false) :
    Step template { template with stages := template.stages.put stage.name stage }
  | edited (name : String) (before after : Stage)
    (found : template.stages.get? name = some before)
    (leads : Edit.Leads Stage.Calls before after) :
    Step template { template with stages := template.stages.put name after }

section Steps

variable {template : Template}

theorem insert_step (stage : Stage) (built : stage.Built) :
    template.Step ((insert stage).apply template).2 := by
  have settles : (insert stage).Settles template template.Step := by
    refine .get (.lift fun stages registered => ?_)
    obtain ⟨vacant, rfl⟩ := Registry.register_eq_ok.mp registered
    exact .set (.inserted stage built vacant)
  exact settles.left .asked

theorem addStage_step (name : String) :
    template.Step ((addStage name).apply template).2 := by
  unfold addStage
  cases created : Stage.create name with
  | error fault =>
    rw [Edit.apply_bind, Edit.apply_lift]
    exact .asked
  | ok stage =>
    rw [Edit.apply_bind, Edit.apply_lift]
    exact insert_step stage ⟨name, stage, created, .refl stage⟩

theorem editStage_step (name : String) (change : Edit.Change Stage.Calls) :
    template.Step ((editStage name change.edit).apply template).2 := by
  unfold editStage
  rw [Edit.apply_bind, Edit.apply_get]
  dsimp only
  cases found : template.stages.get? name with
  | none => exact .asked
  | some stage =>
    -- What the edit leaves behind is assigned before its answer is looked at.
    have leads := change.through stage
    dsimp only
    rw [Edit.apply_bind, Edit.apply_set]
    dsimp only
    rw [Edit.apply_bind, Edit.apply_lift]
    cases (change.edit.apply stage).1 <;> exact .edited name stage _ found leads

/-- **An operation is a step**, whether it is refused or not. -/
theorem operation_step (operation : Operation) :
    template.Step (operation.edit.apply template).2 := by
  cases operation with
  | addStage name => exact addStage_step name
  | insert stage built => exact insert_step stage built
  | editStage name change =>
    have step := @editStage_step template name change
    rw [Operation.edit, Edit.apply_bind]
    rcases ran : (Template.editStage name change.edit).apply template with ⟨_ | answer, left⟩ <;>
      rw [ran] at step <;> exact step
  | render =>
    have asks : Operation.render.edit.Asks := render_asks.bind fun _ => .pure ()
    rw [asks]
    exact .asked

end Steps

/-! ### Runs -/

/-- **What holds of every template that is reached**: every stage stands under its name and was
built by setters, and nothing is being rendered. -/
structure Sound (template : Template) : Prop where
  stages : template.stages.Every Stage.Built
  idle : template.phase = .idle

/-- **Every step keeps a template sound.** -/
theorem Step.sound {before after : Template} (step : before.Step after) (sound : before.Sound) :
    after.Sound := by
  cases step with
  | asked => exact sound
  | inserted stage built vacant => exact { sound with stages := sound.stages.put built }
  | edited name old new found leads =>
    obtain ⟨named, built⟩ := sound.stages.get? found
    have same : name = Named.name new := named.symm.trans (Stage.leads_name leads).symm
    rw [same]
    exact { sound with stages := sound.stages.put (built.leads leads) }

/-- A run of operations leads to the template from the one without stages. -/
def Reached (template : Template) : Prop := ∃ operations, template = empty.run operations

theorem run_sound (operations : List Operation) {template : Template} (sound : template.Sound) :
    (template.run operations).Sound := by
  induction operations generalizing template with
  | nil => exact sound
  | cons operation rest ih => exact ih ((operation_step operation).sound sound)

theorem Reached.sound {template : Template} (reached : template.Reached) : template.Sound := by
  obtain ⟨operations, rfl⟩ := reached
  exact run_sound operations ⟨.empty, rfl⟩

end Template

end ContainerStack.Script
