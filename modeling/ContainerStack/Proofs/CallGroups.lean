import ContainerStack.Proofs.Stages

/-!
**Calls of different groups do not see each other.**

A setter of a stage looks at its arguments and at the part of the stage that it changes, so that
calls of different groups can be made in any order.

* `Edit.Answers`: the answer of an edit, and what it leaves behind in both cases.
* `Stage.Group`: what a call is about. Predefined commands are a group for each kind.
* `Stage.part`: what a stage holds for a group. `Group.add`: a part with what one more call gives.
* `Setting.check`, `Setting.verdict`: the answer to a call. `setting_answers`: this is what every
  setter answers, and what it leaves behind.
* `Stage.after`, `Stage.transcript`: a stage after some calls, and the calls with their answers.
* `run_filter`: what a run makes of a group is what the calls of the group make of it alone.
* `order_within_groups`: runs that agree group by group are answered and rendered in the same way.
-/

namespace ContainerStack

namespace Edit

variable {σ : Type}

/-- The edit of a value gives an answer. It leaves `next` if it is accepted, else the value. -/
def Answers (edit : Edit σ Unit) (value : σ) (answer : Except Fault Unit) (next : σ) : Prop :=
  edit.apply value = (answer, match answer with
    | .ok _ => next
    | .error _ => value)

namespace Answers

variable {value next : σ} {answer : Except Fault Unit}

theorem modify {change : σ → σ} :
    Answers (modifyThe σ change) value (.ok ()) (change value) := rfl

theorem set : Answers (MonadStateOf.set next : Edit σ PUnit) value (.ok ()) next := rfl

theorem pure : Answers (Pure.pure () : Edit σ PUnit) value (.ok ()) value := rfl

theorem get {rest : σ → Edit σ Unit} (later : Answers (rest value) value answer next) :
    Answers ((MonadState.get : Edit σ σ) >>= rest) value answer next := later

theorem check {check : Except Fault Unit} {rest : Unit → Edit σ Unit}
    (later : Answers (rest ()) value answer next) :
    Answers ((liftM check : Edit σ Unit) >>= rest) value (check >>= fun _ => answer) next := by
  cases check with
  | error fault => rfl
  | ok _ => exact later

theorem last {check : Except Fault Unit} {rest : Unit → Edit σ Unit}
    (later : Answers (rest ()) value (.ok ()) next) :
    Answers ((liftM check : Edit σ Unit) >>= rest) value check next := by
  cases check with
  | error fault => rfl
  | ok _ => exact later

end Answers

end Edit

namespace Script.Stage

open Edit

/-! ### Groups -/

/-- What a call of a setter is about. -/
inductive Group where
  | isBase
  | globalArgs
  | base
  | buildUser
  | serviceUser
  | args
  | environment
  | ports
  | volumes
  | workdir
  | copies
  | runs
  | predefined (kind : PredefinedKind)
  | entrypoint
  | command
  deriving DecidableEq, Repr

namespace Group

/-- What one call of a group gives. -/
abbrev Entry : Group → Type
  | isBase => Bool
  | globalArgs => String × Option String
  | base => BaseImage
  | buildUser => Account
  | serviceUser => Account
  | args => String × Option String
  | environment => String × String
  | ports => Nat × Protocol
  | volumes => String
  | workdir => String
  | copies => FileCopy
  | runs => String
  | predefined _ => Predefined
  | entrypoint => Command
  | command => Command

/-- What a stage holds for a group. -/
abbrev Part : Group → Type
  | isBase => Bool
  | globalArgs => OrderedMap (Option String)
  | base => Option BaseImage
  | buildUser => Option Account
  | serviceUser => Option Account
  | args => OrderedMap (Option String)
  | environment => OrderedMap String
  | ports => List (Nat × Protocol)
  | volumes => List String
  | workdir => Option String
  | copies => List FileCopy
  | runs => List String
  | predefined _ => List Predefined
  | entrypoint => Option Command
  | command => Option Command

/-- A part with what one more call gives: arguments and variables are written in their places,
repeated ports and volumes are ignored, and a value takes the place of the one before it. -/
def add : (group : Group) → group.Part → group.Entry → group.Part
  | .isBase, _, flag => flag
  | .globalArgs, held, (name, value) => held.insert name value
  | .base, _, image => some image
  | .buildUser, _, account => some account
  | .serviceUser, _, account => some account
  | .args, held, (name, value) => held.insert name value
  | .environment, held, (key, value) => held.insert key value
  | .ports, held, port => if held.contains port then held else held ++ [port]
  | .volumes, held, path => if held.contains path then held else held ++ [path]
  | .workdir, _, path => some path
  | .copies, held, files => held ++ [files]
  | .runs, held, line => held ++ [line]
  | .predefined _, held, given => held ++ [given]
  | .entrypoint, _, given => some given
  | .command, _, given => some given

/-- The word for an instruction that is there at most once. -/
def single? : Group → Option String
  | base => some "FROM"
  | predefined kind => some (kind.word ++ " macro")
  | entrypoint => some "ENTRYPOINT"
  | command => some "CMD"
  | _ => none

/-- Whether a part holds something already. -/
def isTaken : (group : Group) → group.Part → Bool
  | .base, held => held.isSome
  | .predefined _, held => !held.isEmpty
  | .entrypoint, held => held.isSome
  | .command, held => held.isSome
  | _, _ => false

end Group

/-- What a stage holds for a group. -/
def part (stage : Stage) : (group : Group) → group.Part
  | .isBase => stage.isBase
  | .globalArgs => stage.globalArgs
  | .base => stage.base
  | .buildUser => stage.buildUser
  | .serviceUser => stage.serviceUser
  | .args => stage.args
  | .environment => stage.environment
  | .ports => stage.exposed
  | .volumes => stage.volumes
  | .workdir => stage.workdir
  | .copies => stage.copies
  | .runs => stage.runs
  | .predefined kind => stage.predefined.filter fun given => given.kind == kind
  | .entrypoint => stage.entrypoint
  | .command => stage.command

namespace Setting

/-- What a call is about. -/
def group : Setting → Group
  | isBase _ => .isBase
  | globalArg _ _ => .globalArgs
  | base _ _ => .base
  | buildUser _ => .buildUser
  | serviceUser _ => .serviceUser
  | arg _ _ => .args
  | env _ _ => .environment
  | port _ _ => .ports
  | volume _ => .volumes
  | workdir _ => .workdir
  | copy _ => .copies
  | run _ => .runs
  | predefined given => .predefined given.kind
  | entrypoint _ => .entrypoint
  | command _ => .command

/-- What a call gives. -/
def entry : (setting : Setting) → setting.group.Entry
  | isBase flag => flag
  | globalArg name value => (name, value)
  | base image knownAs => (⟨image, knownAs⟩ : BaseImage)
  | buildUser account => account
  | serviceUser account => account
  | arg name value => (name, value)
  | env key value => (key, value)
  | port number protocol => (number, protocol)
  | volume path => path
  | workdir path => path
  | copy files => files
  | run line => line
  | predefined given => given
  | entrypoint given => given
  | command given => given

/-- What a call finds out about its arguments alone. -/
def check : Setting → Except Fault Unit
  | globalArg name value => checkArgument name value
  | base image knownAs => do
    if let some name := knownAs then Validation.name .stage name
    Validation.token "from" image
  | arg name value => checkArgument name value
  | env key value => do
    Validation.variableName key
    Validation.singleLine "env" value
  | port number _ =>
    Validation.ensure (1 ≤ number && number ≤ 65535) (.outOfRange "expose" (.exposedPort number))
  | volume path => do
    Validation.containerPath "volume" path
    Validation.singleLine "volume" path
  | workdir path => do
    Validation.containerPath "workdir" path
    Validation.singleLine "workdir" path
  | run line => do
    Validation.present "run" "command" line
    Validation.singleLine "run" line
  | predefined given => given.validate
  | entrypoint given => checkCommand "entrypoint" given
  | command given => checkCommand "cmd" given
  | _ => .ok ()

/-- The answer to a call on a stage of some name that holds some part for its group: the arguments
are checked, and what is there at most once must not be there yet. -/
def verdict (setting : Setting) (name : String) (held : setting.group.Part) :
    Except Fault Unit := do
  setting.check
  match setting.group.single? with
  | none => return
  | some word =>
    Validation.ensure (!setting.group.isTaken held)
      (.duplicate .instruction (word ++ " in " ++ ("stage '" ++ name ++ "'")))

/-- **An accepted call adds what it gives to the part of its group.** -/
theorem part_change (setting : Setting) (stage : Stage) :
    (setting.change stage).part setting.group =
      setting.group.add (stage.part setting.group) setting.entry := by
  cases setting with
  | port number protocol =>
    simp only [change, group, part, Group.add, entry]
    split <;> rfl
  | volume path =>
    simp only [change, group, part, Group.add, entry]
    split <;> rfl
  | predefined given => simp [change, group, part, Group.add, entry]
  | _ => rfl

/-- **It leaves all other parts alone.** -/
theorem part_change_other {setting : Setting} {other : Group} (differs : setting.group ≠ other)
    (stage : Stage) : (setting.change stage).part other = stage.part other := by
  cases setting with
  | port number protocol =>
    simp only [change]
    split
    · rfl
    · cases other <;> first | rfl | exact absurd rfl differs
  | volume path =>
    simp only [change]
    split
    · rfl
    · cases other <;> first | rfl | exact absurd rfl differs
  | predefined given =>
    cases other with
    | predefined kind =>
      have differs : given.kind ≠ kind := fun same => differs (congrArg Group.predefined same)
      simp [change, part, differs]
    | _ => rfl
  | _ => cases other <;> first | rfl | exact absurd rfl differs

/-- The phase of a stage is not changed by any call. -/
theorem change_phase (setting : Setting) (stage : Stage) :
    (setting.change stage).phase = stage.phase := by
  cases setting with
  | port number protocol =>
    simp only [change]
    split <;> rfl
  | volume path =>
    simp only [change]
    split <;> rfl
  | _ => rfl

end Setting

/-! ### One call -/

/-- **What every call answers and leaves behind.** -/
theorem setting_answers (setting : Setting) (stage : Stage) :
    Answers setting.edit stage (setting.verdict stage.name (stage.part setting.group))
      (setting.change stage) := by
  cases setting with
  | isBase flag => exact .modify
  | globalArg name value => exact .check .modify
  | base image knownAs =>
    have single : Answers (do
        let stage ← MonadState.get
        liftM (stage.ensureSingle stage.base.isNone "FROM")
        MonadStateOf.set { stage with base := some ⟨image, knownAs⟩ }) stage
        (Validation.ensure (!stage.base.isSome)
          (.duplicate .instruction ("FROM" ++ " in " ++ stage.owner)))
        { stage with base := some ⟨image, knownAs⟩ } := by
      refine .get ?_
      rw [← Option.not_isSome]
      exact .last .set
    cases knownAs with
    | none => exact .check single
    | some name =>
      rw [Setting.verdict, Setting.check, bind_assoc]
      exact .check (.check single)
  | buildUser account => exact .modify
  | serviceUser account => exact .modify
  | arg name value => exact .check .modify
  | env key value =>
    rw [Setting.verdict, Setting.check, bind_assoc]
    exact .check (.check .modify)
  | port number protocol =>
    refine .check (.get ?_)
    simp only [Setting.change]
    split
    · exact .pure
    · exact .set
  | volume path =>
    rw [Setting.verdict, Setting.check, bind_assoc]
    refine .check (.check (.get ?_))
    simp only [Setting.change]
    split
    · exact .pure
    · exact .set
  | workdir path =>
    rw [Setting.verdict, Setting.check, bind_assoc]
    exact .check (.check .modify)
  | copy files => exact .modify
  | run line =>
    rw [Setting.verdict, Setting.check, bind_assoc]
    exact .check (.check .modify)
  | predefined given =>
    have free : (!stage.predefined.any fun other => other.kind == given.kind) =
        !(Group.predefined given.kind).isTaken (stage.part (.predefined given.kind)) := by
      rw [Bool.eq_iff_iff]
      simp [Group.isTaken, part]
    refine .check (.get ?_)
    rw [free]
    exact .last .set
  | entrypoint given =>
    refine .check (.get ?_)
    rw [← Option.not_isSome]
    exact .last .set
  | command given =>
    refine .check (.get ?_)
    rw [← Option.not_isSome]
    exact .last .set

section Calls

variable {setting : Setting} {group : Group} {one two : Stage}

/-- **A call looks at the part of its group alone**, and at the name of the stage. -/
theorem setting_local (names : one.name = two.name)
    (same : one.part setting.group = two.part setting.group) :
    (setting.edit.apply one).1 = (setting.edit.apply two).1 ∧
      (setting.edit.apply one).2.part setting.group =
        (setting.edit.apply two).2.part setting.group := by
  rw [setting_answers setting one, setting_answers setting two, names, same]
  refine ⟨rfl, ?_⟩
  cases setting.verdict two.name (two.part setting.group) with
  | error fault => exact same
  | ok _ =>
    show (setting.change one).part setting.group = (setting.change two).part setting.group
    rw [Setting.part_change, Setting.part_change, same]

/-- **A call leaves all other parts alone**, whether it is refused or not. -/
theorem setting_other (differs : setting.group ≠ group) (stage : Stage) :
    (setting.edit.apply stage).2.part group = stage.part group := by
  rw [setting_answers setting stage]
  cases setting.verdict stage.name (stage.part setting.group) with
  | error fault => rfl
  | ok _ => exact Setting.part_change_other differs stage

/-- No call changes the name or the phase. -/
theorem setting_frame (setting : Setting) (stage : Stage) :
    (setting.edit.apply stage).2.name = stage.name ∧
      (setting.edit.apply stage).2.phase = stage.phase := by
  rw [setting_answers setting stage]
  cases setting.verdict stage.name (stage.part setting.group) with
  | error fault => exact ⟨rfl, rfl⟩
  | ok _ => exact ⟨setting.change_name stage, setting.change_phase stage⟩

end Calls

/-! ### Runs -/

/-- A stage after some calls in a row, refused ones included. -/
def after (stage : Stage) (settings : List Setting) : Stage :=
  Edit.run (settings.map Setting.edit) stage

/-- Some calls in a row, each with its answer. -/
def transcript (stage : Stage) : List Setting → List (Setting × Except Fault Unit)
  | [] => []
  | setting :: rest =>
    (setting, (setting.edit.apply stage).1) :: transcript (setting.edit.apply stage).2 rest

theorem after_frame (stage : Stage) (settings : List Setting) :
    (stage.after settings).name = stage.name ∧ (stage.after settings).phase = stage.phase := by
  induction settings generalizing stage with
  | nil => exact ⟨rfl, rfl⟩
  | cons setting rest ih =>
    obtain ⟨name, phase⟩ := setting_frame setting stage
    obtain ⟨later, laterPhase⟩ := ih (setting.edit.apply stage).2
    exact ⟨later.trans name, laterPhase.trans phase⟩

/-- **What a run makes of a group** is what the calls of the group make of it alone, and they are
answered as in the run. -/
theorem run_filter {group : Group} {one two : Stage} (names : one.name = two.name)
    (same : one.part group = two.part group) (settings : List Setting) :
    (one.transcript settings).filter (fun call => call.1.group = group) =
        two.transcript (settings.filter fun setting => setting.group = group) ∧
      (one.after settings).part group =
        (two.after (settings.filter fun setting => setting.group = group)).part group := by
  -- At a call of another group the second stage stands still, and the first one keeps the part.
  induction settings generalizing one two with
  | nil => exact ⟨rfl, same⟩
  | cons setting rest ih =>
    have kept := (setting_frame setting one).1.trans names
    by_cases about : setting.group = group
    · subst about
      obtain ⟨answers, parts⟩ := setting_local names same
      obtain ⟨later, left⟩ := ih (kept.trans (setting_frame setting two).1.symm) parts
      rw [transcript, List.filter_cons_of_pos (by simp), List.filter_cons_of_pos (by simp), answers,
        later]
      exact ⟨rfl, left⟩
    · obtain ⟨later, left⟩ := ih kept ((setting_other about one).trans same)
      rw [transcript, List.filter_cons_of_neg (by simpa using about),
        List.filter_cons_of_neg (by simpa using about)]
      exact ⟨later, left⟩

/-! ### Renderings -/

/-- The predefined commands of a phase are those of one kind. -/
theorem predefinedRuns_eq (stage : Stage) :
    stage.predefinedRuns .beforeCommands =
        (stage.part (.predefined .pinVersion)).map (fun given => .run [given.command]) ∧
      stage.predefinedRuns .afterCommands =
        (stage.part (.predefined .install)).map (fun given => .run [given.command]) := by
  have pins : (fun given : Predefined => given.phase == .beforeCommands) =
      fun given => given.kind == .pinVersion := by
    funext given
    cases given <;> rfl
  have installs : (fun given : Predefined => given.phase == .afterCommands) =
      fun given => given.kind == .install := by
    funext given
    cases given <;> rfl
  rw [predefinedRuns, predefinedRuns, pins, installs]
  exact ⟨rfl, rfl⟩

/-- **The instructions of a stage depend on its name and its parts alone.** -/
theorem instructions_congr {one two : Stage} (names : one.name = two.name)
    (parts : ∀ group, one.part group = two.part group) : one.instructions = two.instructions := by
  have isBase : one.isBase = two.isBase := parts .isBase
  have globalArgs : one.globalArgs = two.globalArgs := parts .globalArgs
  have base : one.base = two.base := parts .base
  have buildUser : one.buildUser = two.buildUser := parts .buildUser
  have serviceUser : one.serviceUser = two.serviceUser := parts .serviceUser
  have args : one.args = two.args := parts .args
  have environment : one.environment = two.environment := parts .environment
  have exposed : one.exposed = two.exposed := parts .ports
  have volumes : one.volumes = two.volumes := parts .volumes
  have workdir : one.workdir = two.workdir := parts .workdir
  have copies : one.copies = two.copies := parts .copies
  have runs : one.runs = two.runs := parts .runs
  have entrypoint : one.entrypoint = two.entrypoint := parts .entrypoint
  have command : one.command = two.command := parts .command
  have targets : one.ownershipTargets = two.ownershipTargets := by
    rw [ownershipTargets, workdir, copies]
    rfl
  have ownership : one.serviceUserInstructions = two.serviceUserInstructions := by
    rw [serviceUserInstructions, serviceUser, buildUser, targets]
    rfl
  have commands (phase : PredefinedPhase) :
      one.predefinedRuns phase = two.predefinedRuns phase := by
    cases phase
    · rw [(predefinedRuns_eq one).1, (predefinedRuns_eq two).1, parts]
    · rw [(predefinedRuns_eq one).2, (predefinedRuns_eq two).2, parts]
  rw [instructions, owner, names, isBase, globalArgs, base, buildUser, serviceUser, args,
    environment, exposed, volumes, workdir, copies, runs, entrypoint, command, ownership, commands,
    commands]
  rfl

theorem render_answer (stage : Stage) : (render.apply stage).1 =
    if stage.phase = .rendering then .error (.obstructed (.alreadyRendering stage.owner))
    else stage.text := by
  unfold render
  rw [apply_bind, apply_get]
  cases phase : stage.phase with
  | idle =>
    dsimp only
    rw [RenderPhase.guarded_apply phase, if_neg nofun]
    rfl
  | rendering =>
    dsimp only
    rw [RenderPhase.guarded_busy phase, if_pos rfl]

/-- Two stages of one name and one phase that hold the same parts are rendered alike. -/
theorem render_congr {one two : Stage} (names : one.name = two.name)
    (phases : one.phase = two.phase) (parts : ∀ group, one.part group = two.part group) :
    (render.apply one).1 = (render.apply two).1 := by
  rw [render_answer, render_answer, phases, owner, owner, names, text, text,
    instructions_congr names parts]

/-- **Only the order within each group matters.** Two runs of calls on one stage, accepted or
refused, which have the same calls of each group in the same order, give the same answer to every
call, and what is rendered in the end is the same. Predefined commands of different kinds are of
different groups. -/
theorem order_within_groups {stage : Stage} {first second : List Setting}
    (same : ∀ group : Group, (first.filter fun setting => setting.group = group) =
      second.filter fun setting => setting.group = group) :
    (∀ group : Group, (stage.transcript first).filter (fun call => call.1.group = group) =
      (stage.transcript second).filter fun call => call.1.group = group) ∧
    (render.apply (stage.after first)).1 = (render.apply (stage.after second)).1 := by
  refine ⟨fun group => ?answers, render_congr ?name ?phase fun group => ?parts⟩
  case answers =>
    rw [(run_filter rfl rfl first).1, (run_filter rfl rfl second).1, same]
  case name => exact (stage.after_frame first).1.trans (stage.after_frame second).1.symm
  case phase => exact (stage.after_frame first).2.trans (stage.after_frame second).2.symm
  case parts =>
    rw [(run_filter rfl rfl first).2, (run_filter rfl rfl second).2, same]

/-- Calls in the order in which they are written; a second base image, a port that is none and a
second command that installs dependencies are refused. -/
def tidyCalls : List Setting :=
  [.base "node:20" none, .base "debian" none, .env "PORT" "80", .env "PORT" "3000", .port 0 .tcp,
    .port 3000 .tcp, .predefined (.pinVersion .npm "10.8.0"), .run "npm test",
    .predefined (.install .npm true), .predefined (.install .yarn false),
    .command (.exec ["node", "server.js"])]

/-- The same calls, as mixed as the groups allow. -/
def mixedCalls : List Setting :=
  [.predefined (.install .npm true), .command (.exec ["node", "server.js"]), .port 0 .tcp,
    .env "PORT" "80", .run "npm test", .base "node:20" none, .predefined (.install .yarn false),
    .predefined (.pinVersion .npm "10.8.0"), .env "PORT" "3000", .base "debian" none,
    .port 3000 .tcp]

theorem order_within_groups_mixedCalls :
    ∃ start, create "app" = .ok start ∧
      tidyCalls.map Setting.group ≠ mixedCalls.map Setting.group ∧
      ((start.transcript mixedCalls).filter fun call => !call.2.isOk).map (·.1.group) =
        [.ports, .predefined .install, .base] ∧
      (render.apply (start.after tidyCalls)).1 = .ok
        ("FROM node:20\nENV PORT=3000\nEXPOSE 3000\nRUN npm install --global npm@10.8.0\n" ++
          "RUN npm test\nRUN npm ci --no-audit --no-fund --omit=dev\n" ++
          "CMD [\"node\",\"server.js\"]\n") ∧
      (∀ group : Group, (start.transcript tidyCalls).filter (fun call => call.1.group = group) =
        (start.transcript mixedCalls).filter fun call => call.1.group = group) ∧
      (render.apply (start.after tidyCalls)).1 = (render.apply (start.after mixedCalls)).1 := by
  have created : create "app" = .ok _ := rfl
  refine ⟨_, created, by decide, by decide +kernel, by decide +kernel,
    order_within_groups fun group => ?_⟩
  cases group with
  | predefined kind => cases kind <;> rfl
  | _ => rfl

end Script.Stage

end ContainerStack
