import ContainerStack.Proofs.ScriptLines

/-!
**The account that each step of a stage runs as.**

A switch of accounts holds for what stands below it, up to the next switch, and a base image starts
without one. A stage switches to the account of its commands, then to root where files have to be
handed over, and last to the account of the container.

* `StepKind`, `Step`: the steps of a stage and what they are there for. `Stage.steps`: all steps in
  the order in which they are written; `steps_written`.
* `inForce`: the last switch since the base image.
* `Stage.inForce_before`: only the kinds of steps that switch decide what is in force at a step.
* `runs_as_switched`: the account that each step runs as, and the one that is left in the end.
-/

namespace ContainerStack.Script

/-! ### Steps -/

/-- What a step of a stage is there for. -/
inductive StepKind where
  | globalArgument
  | baseImage
  /-- The checks of an account. -/
  | checks
  | buildSwitch
  | argument
  | environment
  | port
  | volume
  | workdir
  | copy
  /-- Pinning a package manager to a version. -/
  | pin
  | run
  /-- The switch to root before files are handed over. -/
  | rootSwitch
  /-- Handing over files to the account of the container. -/
  | ownership
  | serviceSwitch
  | install
  | entrypoint
  | command
  deriving DecidableEq, Repr

namespace StepKind

/-- All kinds in the order in which their steps are written. -/
def all : List StepKind :=
  [globalArgument, baseImage, checks, buildSwitch, argument, environment, port, volume, workdir, copy,
    pin, run, rootSwitch, ownership, serviceSwitch, install, entrypoint, command]

/-- Whether the steps of a kind change the account. -/
def switches : StepKind → Bool
  | baseImage | buildSwitch | rootSwitch | serviceSwitch => true
  | _ => false

/-- The kinds before a kind whose steps change the account. -/
def switchesBefore (kind : StepKind) : List StepKind := (all.takeWhile (· != kind)).filter switches

end StepKind

/-- One step of a stage: an instruction and what it is there for. -/
structure Step where
  kind : StepKind
  instruction : Instruction
  deriving DecidableEq, Repr

/-- The switch that is in force behind a step, from the one before it: a base image starts without
one. -/
def Step.next (before : Option Step) (step : Step) : Option Step :=
  match step.instruction with
  | .base _ _ => none
  | .user _ _ => some step
  | _ => before

/-- The switch that is in force behind some steps. -/
def inForce (steps : List Step) : Option Step := steps.foldl Step.next none

namespace Stage

/-- The instructions that a stage has for a kind of steps. -/
def written (stage : Stage) : StepKind → List Instruction
  | .globalArgument => argInstructions stage.globalArgs
  | .baseImage => (stage.base.map fun base => .base base.image base.knownAs).toList
  | .checks => stage.bootstraps
  | .buildSwitch => (stage.buildUser.map Account.switch).toList
  | .argument => argInstructions stage.args
  | .environment => stage.environment.toList.map fun (key, value) => .environment key value
  | .port => stage.exposed.map fun (port, protocol) => .expose port protocol
  | .volume => if stage.volumes.isEmpty then [] else [.volume stage.volumes]
  | .workdir => (stage.workdir.map Instruction.workdir).toList
  | .copy => stage.copies.map Instruction.copy
  | .pin => stage.predefinedRuns .beforeCommands
  | .run => stage.runs.map fun line => .run [line]
  | .rootSwitch =>
    if stage.serviceUser.isSome && !stage.ownershipTargets.isEmpty && stage.buildUser.isSome then
      [.user "root" none]
    else []
  | .ownership =>
    match stage.serviceUser with
    | none => []
    | some account =>
      if stage.ownershipTargets.isEmpty then []
      else
        [.run ["chown -R " ++ account.owner ++ " " ++
          String.intercalate " " stage.ownershipTargets]]
  | .serviceSwitch => (stage.serviceUser.map Account.switch).toList
  | .install => stage.predefinedRuns .afterCommands
  | .entrypoint => (stage.entrypoint.map Instruction.entrypoint).toList
  | .command => (stage.command.map Instruction.command).toList

/-- The steps of one kind. -/
def stepsOf (stage : Stage) (kind : StepKind) : List Step := (stage.written kind).map (⟨kind, ·⟩)

/-- All steps of a stage in the order in which they are written. -/
def steps (stage : Stage) : List Step := StepKind.all.flatMap stage.stepsOf

theorem serviceUserInstructions_eq (stage : Stage) : stage.serviceUserInstructions =
    stage.written .rootSwitch ++ stage.written .ownership ++ stage.written .serviceSwitch := by
  unfold serviceUserInstructions written
  cases stage.serviceUser with
  | none => rfl
  | some account =>
    cases stage.ownershipTargets <;> simp

/-- **The steps of a stage are its instructions.** -/
theorem steps_written {stage : Stage} {instructions : List Instruction}
    (made : stage.instructions = .ok instructions) :
    stage.steps.map Step.instruction = instructions := by
  obtain ⟨base, given, rfl⟩ := instructions_eq_ok made
  have own (kind : StepKind) : (stage.stepsOf kind).map Step.instruction = stage.written kind := by
    simp [stepsOf, Function.comp_def]
  rw [steps, List.map_flatMap]
  simp only [own]
  simp [StepKind.all, sequence, middle, serviceUserInstructions_eq, written, given]

/-! ### Switches -/

/-- The step that switches to an account. -/
def switchTo (kind : StepKind) (account : Account) : Step := ⟨kind, account.switch⟩

/-- The switch to root before files are handed over. -/
def switchToRoot : Step := ⟨.rootSwitch, .user "root" none⟩

/-- The switch of a kind, if the stage has it: to the account of the commands, to root, or to the
account of the container. -/
def switch? (stage : Stage) : StepKind → Option Step
  | .buildSwitch => stage.buildUser.map (switchTo .buildSwitch)
  | .rootSwitch =>
    if stage.serviceUser.isSome && !stage.ownershipTargets.isEmpty && stage.buildUser.isSome then
      some switchToRoot
    else none
  | .serviceSwitch => stage.serviceUser.map (switchTo .serviceSwitch)
  | _ => none

/-- The switch that is left in the end: to the account of the container, or else to that of the
commands. -/
def lastSwitch? (stage : Stage) : Option Step :=
  (stage.serviceUser.map (switchTo .serviceSwitch)).or
    (stage.buildUser.map (switchTo .buildSwitch))

section Switches

variable {stage : Stage} {kind : StepKind}

theorem kind_of_stepsOf {step : Step} (member : step ∈ stage.stepsOf kind) : step.kind = kind := by
  obtain ⟨instruction, _, rfl⟩ := List.mem_map.mp member
  rfl

/-- **Steps of the other kinds are neither switches nor base images.** -/
theorem next_of_stepsOf (plain : kind.switches = false) {step : Step}
    (member : step ∈ stage.stepsOf kind) (before : Option Step) :
    Step.next before step = before := by
  obtain ⟨instruction, listed, rfl⟩ := List.mem_map.mp member
  have made : ∀ account : Option Account, instruction ∈ (account.bind Account.bootstrap).toList →
      ∃ lines, instruction = .run lines := by
    intro account checked
    obtain ⟨account, _, made⟩ := Option.bind_eq_some_iff.mp (Option.mem_toList.mp checked)
    unfold Account.bootstrap at made
    split at made
    · exact ⟨_, (Option.some.inj made).symm⟩
    · cases made
  cases kind with
  | globalArgument | argument | environment | port | copy | pin | run | install =>
    obtain ⟨_, _, rfl⟩ := List.mem_map.mp listed
    rfl
  | checks =>
    rcases List.mem_append.mp listed with build | service
    · obtain ⟨lines, rfl⟩ := made _ build
      rfl
    · obtain ⟨lines, rfl⟩ := made _ service
      rfl
  | volume =>
    simp only [written] at listed
    split at listed
    · cases listed
    · cases List.mem_singleton.mp listed
      rfl
  | ownership =>
    simp only [written] at listed
    split at listed
    · cases listed
    · split at listed
      · cases listed
      · cases List.mem_singleton.mp listed
        rfl
  | workdir | entrypoint | command =>
    obtain ⟨_, _, rfl⟩ := Option.map_eq_some_iff.mp (Option.mem_toList.mp listed)
    rfl
  | baseImage | buildSwitch | rootSwitch | serviceSwitch => cases plain

/-- Steps that keep the account leave the switch in force that was in force before. -/
theorem foldl_kept {steps : List Step}
    (kept : ∀ step ∈ steps, ∀ before, Step.next before step = before) (start : Option Step) :
    steps.foldl Step.next start = start := by
  induction steps with
  | nil => rfl
  | cons step rest ih =>
    rw [List.foldl_cons, kept step List.mem_cons_self]
    exact ih fun other member => kept other (List.mem_cons_of_mem step member)

/-- **Only the kinds of steps that switch matter** for what is in force behind some kinds. -/
theorem inForce_switches (kinds : List StepKind) : inForce (kinds.flatMap stage.stepsOf) =
    inForce ((kinds.filter StepKind.switches).flatMap stage.stepsOf) := by
  unfold inForce
  generalize (none : Option Step) = start
  induction kinds generalizing start with
  | nil => rfl
  | cons kind rest ih =>
    rw [List.flatMap_cons, List.foldl_append, ih]
    cases switches : kind.switches with
    | true => rw [List.filter_cons_of_pos switches, List.flatMap_cons, List.foldl_append]
    | false =>
      rw [List.filter_cons_of_neg (by simp [switches]),
        foldl_kept fun step member => next_of_stepsOf switches member]

/-- A step among those of some kinds is behind all steps of the kinds before its own one. -/
theorem split_kinds {kinds : List StepKind} {before after : List Step} {step : Step}
    (place : kinds.flatMap stage.stepsOf = before ++ step :: after) :
    ∃ earlier later first rest, kinds = earlier ++ step.kind :: later ∧
      stage.stepsOf step.kind = first ++ step :: rest ∧
      before = earlier.flatMap stage.stepsOf ++ first := by
  induction kinds generalizing before with
  | nil => simp at place
  | cons kind rest ih =>
    have behind {inner : List Step} (same : before = stage.stepsOf kind ++ inner)
        (place : rest.flatMap stage.stepsOf = inner ++ step :: after) :
        ∃ earlier later first others, kind :: rest = earlier ++ step.kind :: later ∧
          stage.stepsOf step.kind = first ++ step :: others ∧
          before = earlier.flatMap stage.stepsOf ++ first := by
      obtain ⟨earlier, later, first, others, rfl, own, rfl⟩ := ih place
      exact ⟨kind :: earlier, later, first, others, rfl, own,
        by rw [same, List.flatMap_cons, List.append_assoc]⟩
    rw [List.flatMap_cons] at place
    rcases List.append_eq_append_iff.mp place with ⟨inner, same, place⟩ | ⟨inner, own, same⟩
    · exact behind same place
    · cases inner with
      | nil =>
        rw [List.append_nil] at own
        exact @behind [] (by rw [own, List.append_nil]) same.symm
      | cons first others =>
        obtain ⟨rfl, -⟩ := List.cons.inj same
        have listed : step ∈ stage.stepsOf kind := own ▸ List.mem_append_right _ List.mem_cons_self
        cases kind_of_stepsOf listed
        exact ⟨[], rest, before, others, rfl, own, rfl⟩

/-- **What is in force at a step** that is no switch itself is decided by the kinds that switch
before it. -/
theorem inForce_before {before after : List Step} {step : Step}
    (place : stage.steps = before ++ step :: after) (plain : step.kind.switches = false) :
    inForce before = inForce (step.kind.switchesBefore.flatMap stage.stepsOf) := by
  obtain ⟨earlier, later, first, rest, kinds, own, rfl⟩ := split_kinds place
  have taken : StepKind.all.takeWhile (· != step.kind) = earlier := by
    have distinct : (earlier ++ step.kind :: later).Nodup := kinds ▸ by decide
    have others : ∀ kind ∈ earlier, (kind != step.kind) = true := by
      intro kind member
      rw [bne_iff_ne]
      rintro rfl
      exact (List.nodup_append.mp distinct).2.2 _ member _ List.mem_cons_self rfl
    rw [kinds, List.takeWhile_append_of_pos others, List.takeWhile_cons_of_neg (by simp),
      List.append_nil]
  have kept : ∀ other ∈ first, ∀ before, Step.next before other = before := fun other member =>
    next_of_stepsOf plain (own ▸ List.mem_append_left _ member)
  rw [inForce, List.foldl_append, foldl_kept kept, ← inForce, inForce_switches,
    StepKind.switchesBefore, taken]

/-! ### What is in force -/

/-- **A switch takes the place of the one before it.** -/
theorem foldl_switch (switches : kind.switches = true) (other : kind ≠ .baseImage)
    (start : Option Step) :
    (stage.stepsOf kind).foldl Step.next start = (stage.switch? kind).or start := by
  cases kind with
  | baseImage => exact absurd rfl other
  | buildSwitch =>
    simp only [stepsOf, written, switch?]
    cases stage.buildUser <;> rfl
  | rootSwitch =>
    simp only [stepsOf, written, switch?]
    split <;> rfl
  | serviceSwitch =>
    simp only [stepsOf, written, switch?]
    cases stage.serviceUser <;> rfl
  | _ => cases switches

/-- What is in force behind a base image and some switches. -/
theorem inForce_behind {kinds : List StepKind}
    (others : ∀ kind ∈ kinds, kind.switches = true ∧ kind ≠ .baseImage) :
    inForce ((.baseImage :: kinds).flatMap stage.stepsOf) =
      kinds.foldl (fun before kind => (stage.switch? kind).or before) none := by
  have image : (stage.stepsOf .baseImage).foldl Step.next none = none := by
    cases given : stage.base <;> simp [stepsOf, written, given, Step.next]
  rw [inForce, List.flatMap_cons, List.foldl_append, image, List.foldl_flatMap]
  exact List.foldl_ext _ _ _ fun before kind member =>
    foldl_switch (others kind member).1 (others kind member).2 before

/-- **What is in force at a step**, from the switches before its kind. -/
theorem inForce_at {before after : List Step} {step : Step} {kinds : List StepKind}
    (place : stage.steps = before ++ step :: after)
    (behind : step.kind.switches = false ∧ step.kind.switchesBefore = .baseImage :: kinds)
    (others : ∀ kind ∈ kinds, kind.switches = true ∧ kind ≠ .baseImage) :
    inForce before = kinds.foldl (fun before kind => (stage.switch? kind).or before) none := by
  rw [inForce_before place behind.1, behind.2, inForce_behind others]

/-- **Whenever files are handed over** by a stage with an account for its commands, there is a switch
to root. -/
theorem switch?_root (handed : stage.written .ownership ≠ []) :
    stage.switch? .rootSwitch = if stage.buildUser.isSome then some switchToRoot else none := by
  simp only [written] at handed
  simp only [switch?]
  split at handed
  · exact absurd rfl handed
  · split at handed
    · exact absurd rfl handed
    · rename_i account given targets
      simp [given, targets]

/-- In the end it does not matter whether there was a switch to root. -/
theorem or_root : (stage.switch? .serviceSwitch).or
      ((stage.switch? .rootSwitch).or ((stage.switch? .buildSwitch).or none)) =
    stage.lastSwitch? := by
  simp only [switch?, lastSwitch?]
  cases stage.serviceUser <;> simp

section Place

variable {before after : List Step} {step : Step} (place : stage.steps = before ++ step :: after)
include place

/-- Checks are before all switches. -/
theorem inForce_checks (same : step.kind = .checks) : inForce before = none := by
  have behind : step.kind.switches = false ∧ step.kind.switchesBefore = [.baseImage] := by
    rw [same]
    decide
  exact inForce_at place behind (by decide)

/-- Copies and commands are behind the switch to the account for them. -/
theorem inForce_commands (listed : step.kind ∈ [.copy, .pin, .run]) :
    inForce before = stage.buildUser.map (switchTo .buildSwitch) := by
  have behind : ∀ kind ∈ [StepKind.copy, .pin, .run],
      kind.switches = false ∧ kind.switchesBefore = [.baseImage, .buildSwitch] := by decide
  rw [inForce_at place (behind _ listed) (by decide)]
  exact Option.or_none

/-- Files are handed over behind the switch to root, if there was another switch before. -/
theorem inForce_ownership (same : step.kind = .ownership) :
    inForce before = if stage.buildUser.isSome then some switchToRoot else none := by
  have behind : step.kind.switches = false ∧
      step.kind.switchesBefore = [.baseImage, .buildSwitch, .rootSwitch] := by
    rw [same]
    decide
  have handed : stage.written .ownership ≠ [] := by
    obtain ⟨_, _, _, _, _, own, _⟩ := split_kinds place
    intro none
    rw [same, stepsOf, none] at own
    simp at own
  rw [inForce_at place behind (by decide)]
  show (stage.switch? .rootSwitch).or ((stage.switch? .buildSwitch).or none) = _
  rw [switch?_root handed, switch?]
  cases stage.buildUser <;> rfl

/-- What starts the container is behind all switches. -/
theorem inForce_last (listed : step.kind ∈ [.install, .entrypoint, .command]) :
    inForce before = stage.lastSwitch? := by
  have behind : ∀ kind ∈ [StepKind.install, .entrypoint, .command], kind.switches = false ∧
      kind.switchesBefore = [.baseImage, .buildSwitch, .rootSwitch, .serviceSwitch] := by decide
  rw [inForce_at place (behind _ listed) (by decide)]
  exact stage.or_root

end Place

theorem inForce_steps : inForce stage.steps = stage.lastSwitch? := by
  have switching : StepKind.all.filter StepKind.switches =
      [.baseImage, .buildSwitch, .rootSwitch, .serviceSwitch] := by decide
  rw [steps, inForce_switches, switching, inForce_behind (by decide)]
  exact stage.or_root

end Switches

/-- **The account that each step of a stage runs as.** The checks of accounts run before any switch.
Files are copied and commands are run as the account for that, if the stage has one. Files are
handed over as root: the switch in force is then the one to root, and not the one to the account of
the commands, or there was none. The dependencies, the entrypoint and the command run as the account
of the container if the stage has one, else as that of the commands if it has one, and this is the
account that is left in the end. -/
theorem runs_as_switched {stage : Stage} {instructions : List Instruction}
    (made : stage.instructions = .ok instructions) :
    stage.steps.map Step.instruction = instructions ∧
      (∀ before step after, stage.steps = before ++ step :: after →
        (step.kind = .checks → inForce before = none) ∧
        (step.kind ∈ [.copy, .pin, .run] →
          inForce before = stage.buildUser.map (switchTo .buildSwitch)) ∧
        (step.kind = .ownership →
          inForce before = if stage.buildUser.isSome then some switchToRoot else none) ∧
        (step.kind ∈ [.install, .entrypoint, .command] → inForce before = stage.lastSwitch?)) ∧
      inForce stage.steps = stage.lastSwitch? := by
  exact ⟨steps_written made, fun before step after place =>
    ⟨inForce_checks place, inForce_commands place, inForce_ownership place, inForce_last place⟩,
    inForce_steps⟩

/-- An account whose group is created where it is missing. -/
theorem groupedAccount_built : Account.Built ⟨"app", some "web", true, false, false⟩ := by
  have named : Account.Built ⟨"app", none, false, false, false⟩ :=
    @Account.Built.ofName "app" _ rfl
  have grouped : Account.Built ⟨"app", some "web", false, false, false⟩ :=
    @Account.Built.withGroup _ _ "web" named rfl
  exact .ensureGroup grouped rfl

/-- Calls that give a stage two accounts and something to run as each of them. -/
def sharedCalls : List { setting : Setting // setting.Admitted } :=
  [⟨.base "node:20" none, trivial⟩,
    ⟨.serviceUser ⟨"app", some "web", true, false, false⟩, groupedAccount_built⟩,
    ⟨.buildUser ⟨"builder", none, false, false, false⟩, @Account.Built.ofName "builder" _ rfl⟩,
    ⟨.copy ⟨["dist"], "/srv", none, none⟩, @FileCopy.Built.ofPaths ["dist"] "/srv" _ rfl⟩,
    ⟨.predefined (.install .npm true), trivial⟩, ⟨.run "npm test", trivial⟩,
    ⟨.entrypoint (.exec ["node", "server.js"]), trivial⟩]

theorem runs_as_switched_sharedCalls :
    ∃ stage : Stage, stage.Built ∧ ∃ instructions, stage.instructions = .ok instructions ∧
      stage.steps.map (fun step => (step.kind, step.instruction.lines.headD "")) =
        [(.baseImage, "FROM node:20"),
          (.checks, "RUN if command -v apk >/dev/null 2>&1; then \\"),
          (.buildSwitch, "USER builder"), (.copy, "COPY dist /srv"), (.run, "RUN npm test"),
          (.rootSwitch, "USER root"), (.ownership, "RUN chown -R app:web /srv"),
          (.serviceSwitch, "USER app:web"),
          (.install, "RUN npm ci --no-audit --no-fund --omit=dev"),
          (.entrypoint, "ENTRYPOINT [\"node\",\"server.js\"]")] ∧
      stage.steps.map Step.instruction = instructions ∧
      (∀ before step after, stage.steps = before ++ step :: after →
        (step.kind = .checks → inForce before = none) ∧
        (step.kind ∈ [.copy, .pin, .run] →
          inForce before = stage.buildUser.map (switchTo .buildSwitch)) ∧
        (step.kind = .ownership →
          inForce before = if stage.buildUser.isSome then some switchToRoot else none) ∧
        (step.kind ∈ [.install, .entrypoint, .command] → inForce before = stage.lastSwitch?)) ∧
      inForce stage.steps = stage.lastSwitch? := by
  have created : create "app" = .ok _ := rfl
  have built := built_sequence created sharedCalls
  exact ⟨_, built, _, rfl, by decide +kernel, runs_as_switched rfl⟩

end Stage

end ContainerStack.Script
