import ContainerStack.Proofs.Rendering
import ContainerStack.Proofs.ScriptLines

/-!
**Renderings take turns.**

A value is rendered by one rendering at a time. A rendering that finds the value free takes its turn
and gives it back, whatever way it ends; one that finds the value taken is refused, and the turn of
the other rendering goes on.

* `RenderSession.Operation`: a step on the phase of one value. `RenderSession.Orderly`: at most one
  rendering goes on, and the phase tells whether one does; `operation_orderly`, `run_orderly`.
* `RenderPhase.guarded_turn`: a rendering begins and finishes a turn as these steps do, whatever its
  body does.
* `RenderPhase.TakesTurns`: a rendering changes nothing, and is refused where another one goes on;
  `Stage.render_turns`, `Template.render_turns`, `Stack.renderManifest_turns`.
* `RenderPhase.Blocked`: a rendering was refused for another one; `Stage.unblocked`,
  `Template.Idle.unblocked`, `Stack.Reached.unblocked`: this happens to nothing that is idle.
* `renderings_take_turns`: no phase is ever stuck, and no rendering runs inside another one of the
  same value.
-/

namespace ContainerStack

/-! ### Turns of one value -/

namespace RenderSession

/-- One step on the phase of a value: a rendering begins or finishes, the value is copied, or its
phase is asked for. Each answers a phase, of the copy or else of the value. -/
inductive Operation where
  | begin (target : String)
  | finish
  | copy
  | ask

/-- What a step does. -/
def Operation.edit : Operation → Edit RenderSession RenderPhase
  | .begin target => do
    RenderSession.begin target
    return (← get).phase
  | .finish => do
    modify RenderSession.finish
    return (← get).phase
  | .copy => return (← get).copy.phase
  | .ask => return (← get).phase

/-- The session after some steps, refused ones included. -/
def run (session : RenderSession) (operations : List Operation) : RenderSession :=
  operations.foldl (fun session operation => (operation.edit.apply session).2) session

/-- At most one rendering goes on, and the phase tells whether one does. -/
structure Orderly (session : RenderSession) : Prop where
  single : session.guards ≤ 1
  alive : session.phase = .rendering ↔ session.guards = 1

variable {session : RenderSession}

theorem start_orderly : start.Orderly := ⟨Nat.zero_le 1, by decide⟩

/-- An orderly session is the one without a rendering, or the one with a single rendering. -/
theorem Orderly.cases (orderly : session.Orderly) :
    session = start ∨ session = ⟨.rendering, 1⟩ := by
  obtain ⟨phase, guards⟩ := session
  obtain ⟨single, alive⟩ := orderly
  cases phase with
  | idle =>
    have none : guards = 0 := by
      have notOne : guards ≠ 1 := fun one => nomatch alive.mpr one
      dsimp only at single
      omega
    exact .inl (congrArg (RenderSession.mk .idle) none)
  | rendering => exact .inr (congrArg (RenderSession.mk .rendering) (alive.mp rfl))

/-- A rendering begins where none goes on. -/
theorem begin_idle (idle : session.phase = .idle) (target : String) :
    (RenderSession.begin target).apply session = (.ok (), ⟨.rendering, session.guards + 1⟩) := by
  unfold RenderSession.begin
  simp [idle]

/-- **A rendering that cannot begin changes nothing**: the one that goes on keeps its turn. -/
theorem begin_busy (busy : session.phase = .rendering) (target : String) :
    (RenderSession.begin target).apply session =
      (.error (.obstructed (.alreadyRendering target)), session) := by
  unfold RenderSession.begin
  simp [busy]

/-- **Every step keeps a session orderly**, whether it is refused or not. -/
theorem operation_orderly (operation : Operation) (orderly : session.Orderly) :
    (operation.edit.apply session).2.Orderly := by
  cases operation with
  | begin target =>
    rcases orderly.cases with rfl | rfl
    · rw [Operation.edit, Edit.apply_bind, begin_idle rfl]
      exact ⟨Nat.le_refl 1, by decide⟩
    · rw [Operation.edit, Edit.apply_bind, begin_busy rfl]
      exact orderly
  | finish =>
    rcases orderly.cases with rfl | rfl
    · exact start_orderly
    · exact start_orderly
  | copy => exact orderly
  | ask => exact orderly

theorem run_orderly (operations : List Operation) (orderly : session.Orderly) :
    (session.run operations).Orderly := by
  induction operations generalizing session with
  | nil => exact orderly
  | cons operation rest ih => exact ih (operation_orderly operation orderly)

end RenderSession

/-! ### Turns of a rendering -/

namespace RenderPhase

variable {σ α : Type} {phaseOf : σ → RenderPhase} {setPhase : RenderPhase → σ → σ}

/-- **A rendering begins and finishes one turn.** It begins as a step of a session does, which may
be refused; what its body answers and leaves decides neither whether the turn is finished nor
which one. -/
theorem guarded_turn (target : String) (body : Edit σ α) (value : σ) (guards : Nat) :
    (guarded phaseOf setPhase target body).apply value =
      match (RenderSession.begin target).apply ⟨phaseOf value, guards⟩ with
      | (.error fault, _) => (.error fault, value)
      | (.ok _, session) =>
        ((body.apply (setPhase session.phase value)).1,
          setPhase session.finish.phase (body.apply (setPhase session.phase value)).2) := by
  cases phase : phaseOf value with
  | idle =>
    rw [guarded_apply phase, RenderSession.begin_idle rfl]
    rfl
  | rendering => rw [guarded_busy phase, RenderSession.begin_busy rfl]

/-- A rendering of values with a phase changes nothing, its phase included, whatever the phase is
and whatever the answer; and it is refused where another rendering goes on. -/
structure TakesTurns (render : Edit σ String) (phaseOf : σ → RenderPhase) (target : σ → String) :
    Prop where
  unchanged : render.Asks
  taken : ∀ value, phaseOf value = .rendering →
    (render.apply value).1 = .error (.obstructed (.alreadyRendering (target value)))

/-- The rendering was refused because another one goes on. -/
def Blocked (answer : Except Fault String) : Prop :=
  ∃ target, answer = .error (.obstructed (.alreadyRendering target))

end RenderPhase

open RenderPhase (TakesTurns Blocked)

namespace Script

namespace Stage

theorem render_turns : TakesTurns render phase owner where
  unchanged := render_asks
  taken stage busy := by
    unfold render
    rw [Edit.apply_bind, Edit.apply_get]
    dsimp only
    rw [RenderPhase.guarded_busy busy]

/-- **No rendering of an idle stage is blocked.** -/
theorem unblocked {stage : Stage} (idle : stage.phase = .idle) :
    ¬ Blocked (render.apply stage).1 := by
  rintro ⟨target, blocked⟩
  rw [render_apply idle] at blocked
  unfold text instructions at blocked
  cases base : stage.base with
  | none =>
    rw [base] at blocked
    cases blocked
  | some given =>
    rw [base] at blocked
    cases runs : stage.isBase || stage.entrypoint.isSome || stage.command.isSome <;>
      rw [runs] at blocked <;> cases blocked

end Stage

namespace Template

theorem render_turns : TakesTurns render phase fun _ => "template" where
  unchanged := render_asks
  taken template busy := by
    unfold render
    rw [RenderPhase.guarded_busy busy]

/-- Neither the template nor one of its stages is being rendered. -/
structure Idle (template : Template) : Prop where
  own : template.phase = .idle
  stages : ∀ stage ∈ template.stages.toList, stage.phase = .idle

theorem Reached.isIdle {template : Template} (reached : template.Reached) : template.Idle :=
  ⟨reached.sound.idle, fun _ member => (reached.sound.stages.of_mem member).sound.idle⟩

variable {template : Template}

/-- **No rendering is blocked of a template that is idle** with all its stages. -/
theorem Idle.unblocked (idle : template.Idle) : ¬ Blocked (render.apply template).1 := by
  rintro ⟨target, blocked⟩
  rcases (render_eq_error idle.own).mp blocked with
    ⟨_, other⟩ | ⟨before, stage, after, order, _, refused⟩
  · cases other
  · have member : stage ∈ template.stages.toList := by simp [order]
    exact Stage.unblocked (idle.stages stage member) ⟨target, refused⟩

/-- **No script is shown while one of its stages is being rendered.** -/
theorem render_refused (idle : template.phase = .idle)
    (taken : ∃ stage ∈ template.stages.toList, stage.phase = .rendering) :
    ∃ fault, (render.apply template).1 = .error fault := by
  cases rendered : (render.apply template).1 with
  | error fault => exact ⟨fault, rfl⟩
  | ok text =>
    obtain ⟨stage, member, busy⟩ := taken
    obtain ⟨_, _, shown, _⟩ := (render_eq_ok idle).mp rendered
    obtain ⟨_, alone⟩ := renderSection_ok.mp (Edit.exists_of_mapM_eq_ok shown stage member)
    rw [Stage.render_turns.taken stage busy] at alone
    cases alone

end Template

end Script

namespace Stack

theorem renderManifest_turns :
    TakesTurns renderManifest phase fun stack => "manifest of " ++ stack.owner where
  unchanged := renderManifest_asks
  taken stack busy := by rw [renderManifest_apply, if_pos busy]

/-- **No rendering of a stack that is reached is blocked.** -/
theorem Reached.unblocked {stack : Stack} (reached : stack.Reached) :
    ¬ Blocked (renderManifest.apply stack).1 := by
  have sound := reached.sound
  rw [renderManifest_apply, if_neg (by rw [sound.idle]; nofun)]
  rintro ⟨target, blocked⟩
  dsimp only at blocked
  rcases Manifest.text_cases sound with refused | ⟨_, _, _, refused⟩ | ⟨_, _, _, rendered⟩
  · rw [refused] at blocked
    cases blocked
  · rw [refused] at blocked
    cases blocked
  · rw [rendered] at blocked
    cases blocked

end Stack

open Script

/-- **Renderings take turns.**

* After any steps on the phase of a value, refused ones included, at most one rendering goes on and
  the phase is the one of rendering exactly while it does. A rendering begins exactly where none
  goes on; one that cannot begin changes nothing, and neither does a copy, which is idle.
* A rendering of any kind of value, with any body, begins and finishes one such turn.
* Renderings of stages, templates and stacks leave everything as it was, all phases included,
  whatever they answer, and are refused where another one of the same value goes on.
* So what was idle is idle afterwards, and the next rendering is not blocked. Stages, templates and
  stacks that are reached are idle.
* A template is refused while one of its stages is being rendered. -/
theorem renderings_take_turns :
    (∀ operations : List RenderSession.Operation,
      let session := RenderSession.start.run operations
      session.Orderly ∧
      (∀ target, (RenderSession.begin target).apply session =
        if session.phase = .idle then (.ok (), ⟨.rendering, 1⟩)
        else (.error (.obstructed (.alreadyRendering target)), session)) ∧
      session.finish = RenderSession.start ∧
      RenderSession.Operation.copy.edit.apply session = (.ok .idle, session)) ∧
    (∀ (σ α : Type) (phaseOf : σ → RenderPhase) (setPhase : RenderPhase → σ → σ) (target : String)
      (body : Edit σ α) (value : σ) (guards : Nat),
      (RenderPhase.guarded phaseOf setPhase target body).apply value =
        match (RenderSession.begin target).apply ⟨phaseOf value, guards⟩ with
        | (.error fault, _) => (.error fault, value)
        | (.ok _, session) =>
          ((body.apply (setPhase session.phase value)).1,
            setPhase session.finish.phase (body.apply (setPhase session.phase value)).2)) ∧
    TakesTurns Stage.render Stage.phase Stage.owner ∧
    TakesTurns Template.render Template.phase (fun _ => "template") ∧
    TakesTurns Stack.renderManifest Stack.phase (fun stack => "manifest of " ++ stack.owner) ∧
    (∀ stage : Stage, stage.phase = .idle → ¬ Blocked (Stage.render.apply stage).1) ∧
    (∀ template : Template, template.Idle → ¬ Blocked (Template.render.apply template).1) ∧
    (∀ stage : Stage, stage.Built → stage.phase = .idle) ∧
    (∀ template : Template, template.Reached → template.Idle) ∧
    (∀ stack : Stack, stack.Reached →
      stack.phase = .idle ∧ ¬ Blocked (Stack.renderManifest.apply stack).1) ∧
    ∀ template : Template, template.phase = .idle →
      (∃ stage ∈ template.stages.toList, stage.phase = .rendering) →
        ∃ fault, (Template.render.apply template).1 = .error fault := by
  refine ⟨fun operations => ?_, fun _ _ _ _ => RenderPhase.guarded_turn, Stage.render_turns,
    Template.render_turns, Stack.renderManifest_turns, fun _ => Stage.unblocked,
    fun _ => Template.Idle.unblocked, fun _ built => built.sound.idle,
    fun _ => Template.Reached.isIdle, fun _ reached => ⟨reached.sound.idle, reached.unblocked⟩,
    fun _ => Template.render_refused⟩
  have orderly := RenderSession.run_orderly operations RenderSession.start_orderly
  rcases orderly.cases with same | same
  · rw [same] at orderly ⊢
    exact ⟨orderly, RenderSession.begin_idle rfl, rfl, rfl⟩
  · rw [same] at orderly ⊢
    exact ⟨orderly, RenderSession.begin_busy rfl, rfl, rfl⟩

/-- A template whose first stage is complete, while its second one is being rendered. -/
def Template.halfTaken : Template :=
  let free := Template.empty.run
    [.addStage "deps", .addStage "app",
      .editStage "deps" (Stage.Setting.sequence [⟨.base "node:20" none, trivial⟩,
        ⟨.isBase true, trivial⟩])]
  { free with
    stages := free.stages.map fun stage =>
      if stage.name = "app" then { stage with phase := .rendering } else stage }

theorem renderings_take_turns_halfTaken :
    (∃ session, session = RenderSession.start.run
        [.begin "stack", .begin "stack", .copy, .finish, .finish, .begin "stack"] ∧
      session = ⟨.rendering, 1⟩ ∧ session.Orderly) ∧
    (Template.halfTaken.phase = .idle ∧
      Template.halfTaken.stages.toList.map Stage.phase = [.idle, .rendering] ∧
      (∃ fault, (Template.render.apply Template.halfTaken).1 = .error fault) ∧
      (Template.render.apply Template.halfTaken).2 = Template.halfTaken) ∧
    (∃ stack, Stack.create "shop" .everything = .ok stack ∧
      Stack.renderManifest.apply stack = (.error (.obstructed (.noServices "shop")), stack) ∧
      ¬ Blocked (Stack.renderManifest.apply stack).1) := by
  obtain ⟨sessions, _, _, templates, _, _, _, _, _, reached, refused⟩ := renderings_take_turns
  refine ⟨⟨_, rfl, rfl, (sessions _).1⟩, ?template, ?stack⟩
  case template =>
    have taken : ∃ stage ∈ Template.halfTaken.stages.toList, stage.phase = .rendering := by decide
    exact ⟨rfl, rfl, refused _ rfl taken, templates.unchanged _⟩
  case stack =>
    have created : Stack.create "shop" .everything = .ok _ := rfl
    exact ⟨_, created, rfl, (reached _ ⟨_, _, _, [], created, rfl⟩).2⟩

end ContainerStack
