import ContainerStack.Proofs.Maps
import ContainerStack.Proofs.Changes
import ContainerStack.Proofs.TextLines
import ContainerStack.Script.Template

/-!
**Stages of build scripts and what their setters make sure of.**

No value that a stage is given breaks the line that it is written on. Text is checked by the setters
of the stage, and the values of accounts and copies when they are made, so that accounts and copies
are given here as far as their constructors can make them.

* `RenderPhase.guarded_asks`: a rendering changes nothing if its body does not.
* `Account.Built`, `FileCopy.Built`: made by the constructors. `FileCopy.Tokens`: every part of a
  copy is a token; `Built.tokens`.
* `Stage.Calls`: the edits that are one call of a setter. `Stage.Built`: the stage was created and
  then changed by setters.
* `Stage.Sound`: what holds of every stage that was built; `Built.sound`. `Built.copies`: its copies
  were made by their constructors.
* `Stage.ownershipTargets_eq`: the paths that are handed over to the account of the container.
* `Stage.render_apply`: a rendering of an idle stage is its text, and changes nothing.
-/

namespace ContainerStack

/-! ### Renderings -/

namespace RenderPhase

variable {σ α : Type} {phaseOf : σ → RenderPhase} {setPhase : RenderPhase → σ → σ}
  {target : String} {body : Edit σ α}

/-- A rendering of an idle value is its body between two assignments of the phase. -/
theorem guarded_apply {value : σ} (idle : phaseOf value = .idle) :
    (guarded phaseOf setPhase target body).apply value =
      ((body.apply (setPhase .rendering value)).1,
        setPhase .idle (body.apply (setPhase .rendering value)).2) := by
  unfold guarded
  simp [idle]

/-- A rendering of a value that is being rendered is refused, and its body is not run. -/
theorem guarded_busy {value : σ} (busy : phaseOf value = .rendering) :
    (guarded phaseOf setPhase target body).apply value =
      (.error (.obstructed (.alreadyRendering target)), value) := by
  unfold guarded
  simp [busy]

/-- **A rendering whose body only asks** changes nothing, whether it may start or not. -/
theorem guarded_asks (asks : body.Asks)
    (restores : ∀ {value}, phaseOf value = .idle →
      setPhase .idle (setPhase .rendering value) = value) :
    (guarded phaseOf setPhase target body).Asks := by
  intro value
  cases phase : phaseOf value with
  | idle =>
    rw [guarded_apply phase, asks]
    exact restores phase
  | rendering => rw [guarded_busy phase]

end RenderPhase

theorem Validation.token_eq_ok {subject value : String} {answer : Unit} :
    token subject value = .ok answer ↔ Text.IsToken value := by
  by_cases empty : value = ""
  · simp [token, ensure, empty, Text.IsToken, bind, Except.bind]
  · simp [token, ensure, empty, Text.IsToken, bind, Except.bind]

namespace Script

open Text (IsToken Unbroken)

/-! ### Accounts and copies -/

namespace Account

/-- The account was made by its constructors. -/
inductive Built : Account → Prop where
  | ofName {name : String} {account : Account} (made : ofName name = .ok account) : Built account
  | withGroup {account grouped : Account} {group : String} (built : Built account)
    (made : account.withGroup group = .ok grouped) : Built grouped
  | ensureGroup {account requested : Account} (built : Built account)
    (made : account.ensureGroup = .ok requested) : Built requested
  | ensureUser {account : Account} (built : Built account) : Built account.ensureUser
  | assignGroup {account requested : Account} (built : Built account)
    (made : account.assignGroup = .ok requested) : Built requested

/-- Neither the user nor the group breaks a line. -/
structure Sound (account : Account) : Prop where
  name : Unbroken account.name
  group : ∀ group ∈ account.group, Unbroken group

theorem unbroken_of_check {subject value : String} {answer : Unit}
    (accepted : Validation.account subject value = .ok answer) : Unbroken value :=
  Text.unbroken_of_shape (Validation.isAccountName_of_account accepted) rfl rfl

theorem Built.sound {account : Account} (built : account.Built) : account.Sound := by
  induction built with
  | ofName made =>
    obtain ⟨_, valid, same⟩ := Edit.bind_eq_ok.mp made
    cases same
    exact ⟨unbroken_of_check valid, nofun⟩
  | withGroup _ made ih =>
    obtain ⟨_, valid, same⟩ := Edit.bind_eq_ok.mp made
    cases same
    refine ⟨ih.name, fun group given => ?_⟩
    cases given
    exact unbroken_of_check valid
  | ensureGroup _ made ih =>
    obtain ⟨_, _, same⟩ := Edit.bind_eq_ok.mp made
    cases same
    exact { ih with }
  | ensureUser _ ih => exact { ih with }
  | assignGroup _ made ih =>
    obtain ⟨_, _, same⟩ := Edit.bind_eq_ok.mp made
    cases same
    exact { ih with }

theorem Sound.owner {account : Account} (sound : account.Sound) : Unbroken account.owner := by
  unfold Account.owner
  split
  · rename_i group given
    rw [Text.unbroken_append, Text.unbroken_append]
    exact ⟨⟨sound.name, by decide⟩, sound.group group given⟩
  · exact sound.name

end Account

namespace FileCopy

/-- The copy was made by its constructors. -/
inductive Built : FileCopy → Prop where
  | ofPaths {sources : List String} {destination : String} {files : FileCopy}
    (made : ofPaths sources destination = .ok files) : Built files
  | withStage {files staged : FileCopy} {stage : String} (built : Built files)
    (made : files.withStage stage = .ok staged) : Built staged
  | withOwner {files owned : FileCopy} {owner : String} (built : Built files)
    (made : files.withOwner owner = .ok owned) : Built owned

/-- Every part of the copy is a token, and there is a source. -/
structure Tokens (files : FileCopy) : Prop where
  nonempty : files.sources ≠ []
  sources : ∀ source ∈ files.sources, IsToken source
  destination : IsToken files.destination
  stage : ∀ stage ∈ files.stage, IsToken stage
  owner : ∀ owner ∈ files.owner, IsToken owner

theorem tokens_of_forM {subject : String} {values : List String} {answer : PUnit}
    (accepted : values.forM (Validation.token subject) = .ok answer) :
    ∀ value ∈ values, IsToken value := by
  induction values with
  | nil => nofun
  | cons first rest ih =>
    obtain ⟨_, here, later⟩ := Edit.bind_eq_ok.mp accepted
    exact List.forall_mem_cons.mpr ⟨Validation.token_eq_ok.mp here, ih later⟩

theorem Built.tokens {files : FileCopy} (built : files.Built) : files.Tokens := by
  induction built with
  | ofPaths made =>
    obtain ⟨_, full, made⟩ := Edit.bind_eq_ok.mp made
    obtain ⟨_, sources, made⟩ := Edit.bind_eq_ok.mp made
    obtain ⟨_, destination, same⟩ := Edit.bind_eq_ok.mp made
    cases same
    exact ⟨by simpa using Validation.ensure_eq_ok.mp full, tokens_of_forM sources,
      Validation.token_eq_ok.mp destination, nofun, nofun⟩
  | withStage _ made ih =>
    obtain ⟨_, valid, same⟩ := Edit.bind_eq_ok.mp made
    cases same
    refine { ih with stage := fun stage given => ?_ }
    cases given
    exact Validation.token_eq_ok.mp valid
  | withOwner _ made ih =>
    obtain ⟨_, valid, same⟩ := Edit.bind_eq_ok.mp made
    cases same
    refine { ih with owner := fun owner given => ?_ }
    cases given
    exact Validation.token_eq_ok.mp valid

/-- No part of the copy breaks a line. -/
structure Sound (files : FileCopy) : Prop where
  sources : ∀ source ∈ files.sources, Unbroken source
  destination : Unbroken files.destination
  stage : ∀ stage ∈ files.stage, Unbroken stage
  owner : ∀ owner ∈ files.owner, Unbroken owner

theorem Built.sound {files : FileCopy} (built : files.Built) : files.Sound :=
  have tokens := built.tokens
  { sources := fun source listed => (tokens.sources source listed).unbroken
    destination := tokens.destination.unbroken
    stage := fun stage given => (tokens.stage stage given).unbroken
    owner := fun owner given => (tokens.owner owner given).unbroken }

end FileCopy

/-! ### Predefined commands -/

/-- **A predefined command stays on its line**, as its version does. -/
theorem Predefined.unbroken_command {command : Predefined} (valid : command.validate = .ok ()) :
    Unbroken command.command := by
  cases command with
  | pinVersion manager version =>
    obtain ⟨_, _, valid⟩ := Edit.bind_eq_ok.mp valid
    have versioned : isVersion version = true := Validation.ensure_eq_ok.mp valid
    have plain : Unbroken version := Text.unbroken_of_shape versioned rfl rfl
    have pinned (before after : String) (first : Unbroken before) (last : Unbroken after) :
        Unbroken (before ++ version ++ after) :=
      Text.unbroken_append.mpr ⟨Text.unbroken_append.mpr ⟨first, plain⟩, last⟩
    cases manager with
    | npm => exact Text.unbroken_append.mpr ⟨by decide, plain⟩
    | yarn => exact pinned _ _ (by decide) (by decide)
    | pnpm => exact pinned _ _ (by decide) (by decide)
  | install manager production => cases manager <;> cases production <;> decide

/-! ### Stages -/

namespace Stage

/-- The call is given an account or a copy that its constructors can make. -/
def Setting.Admitted : Setting → Prop
  | .buildUser account => account.Built
  | .serviceUser account => account.Built
  | .copy files => files.Built
  | _ => True

/-- The calls of setters. -/
def Calls (edit : Edit Stage Unit) : Prop :=
  ∃ setting : Setting, setting.Admitted ∧ edit = setting.edit

/-- Calls of setters in a row, up to the first that is refused. -/
def Setting.sequence (settings : List { setting : Setting // setting.Admitted }) :
    Edit.Change Calls where
  edit := settings.forM fun setting => setting.1.edit
  through := .forM_list (fun setting => .of_move ⟨setting.1, setting.2, rfl⟩) settings

/-- The stage was created and then changed by setters. -/
abbrev Built : Stage → Prop := Edit.Made create Calls

theorem built_sequence {name : String} {start : Stage} (created : create name = .ok start)
    (settings : List { setting : Setting // setting.Admitted }) :
    ((Setting.sequence settings).edit.apply start).2.Built :=
  ⟨name, start, created, (Setting.sequence settings).through start⟩

/-- A command that stays on its line: as a line it has to, and words are quoted. -/
def OneLine : Command → Prop
  | .shell line => Unbroken line
  | .exec _ => True

/-- An argument of which neither the name nor the value breaks a line. -/
def ArgumentSound (entry : String × Option String) : Prop :=
  Unbroken entry.1 ∧ ∀ value ∈ entry.2, Unbroken value

/-- **What holds of every stage that was built**: its name is a name, nothing is being rendered, and
no value breaks a line. -/
structure Sound (stage : Stage) : Prop where
  named : isEntityName stage.name = true
  idle : stage.phase = .idle
  globalArgs : ∀ entry ∈ stage.globalArgs.entries, ArgumentSound entry
  base : ∀ base ∈ stage.base, Unbroken base.image ∧ ∀ name ∈ base.knownAs, Unbroken name
  buildUser : ∀ account ∈ stage.buildUser, account.Sound
  serviceUser : ∀ account ∈ stage.serviceUser, account.Sound
  args : ∀ entry ∈ stage.args.entries, ArgumentSound entry
  environment : ∀ entry ∈ stage.environment.entries, Unbroken entry.1 ∧ Unbroken entry.2
  workdir : ∀ path ∈ stage.workdir, Unbroken path
  copies : ∀ files ∈ stage.copies, files.Sound
  runs : ∀ line ∈ stage.runs, Unbroken line
  predefined : ∀ command ∈ stage.predefined, command.validate = .ok ()
  entrypoint : ∀ command ∈ stage.entrypoint, OneLine command
  command : ∀ command ∈ stage.command, OneLine command

theorem create_sound {name : String} {stage : Stage} (created : create name = .ok stage) :
    stage.Sound ∧ stage.name = name := by
  obtain ⟨_, valid, same⟩ := Edit.bind_eq_ok.mp created
  cases same
  refine ⟨?_, rfl⟩
  constructor
  case named => exact Validation.name_eq_ok.mp valid
  case idle => rfl
  all_goals
    intro value member
    cases member

theorem unbroken_variable {name : String} (named : isVariableName name = true) : Unbroken name :=
  Text.unbroken_of_shape named rfl rfl

theorem all_insert {α : Type} {entriesMap : OrderedMap α} {key : String} {value : α}
    {holds : String × α → Prop} (before : ∀ entry ∈ entriesMap.entries, holds entry)
    (new : holds (key, value)) : ∀ entry ∈ (entriesMap.insert key value).entries, holds entry := by
  intro entry member
  rcases OrderedMap.mem_entries_insert member with rfl | there
  · exact new
  · exact before entry there

theorem all_append {α : Type} {items : List α} {item : α} {holds : α → Prop}
    (before : ∀ other ∈ items, holds other) (new : holds item) :
    ∀ other ∈ items ++ [item], holds other := by
  intro other member
  rcases List.mem_append.mp member with there | last
  · exact before other there
  · exact List.mem_singleton.mp last ▸ new

theorem all_some {α : Type} {item : α} {holds : α → Prop} (new : holds item) :
    ∀ other ∈ some item, holds other := by
  rintro other ⟨⟩
  exact new

/-- **Every accepted call of a setter keeps a stage sound.** -/
theorem Sound.change {stage : Stage} {setting : Setting} (sound : stage.Sound)
    (admitted : setting.Admitted) (checked : setting.Checked) : (setting.change stage).Sound := by
  cases setting with
  | globalArg name value =>
    have new : ArgumentSound (name, value) := ⟨unbroken_variable checked.1, fun text given =>
      Text.unbroken_of_noControl (checked.2 text given)⟩
    exact { sound with globalArgs := all_insert sound.globalArgs new }
  | base image knownAs =>
    have named : ∀ name ∈ knownAs, Unbroken name := fun name given =>
      Text.unbroken_of_shape (checked.2 name given) rfl rfl
    exact { sound with base := all_some ⟨Text.unbroken_of_noBlank checked.1, named⟩ }
  | buildUser account => exact { sound with buildUser := all_some admitted.sound }
  | serviceUser account => exact { sound with serviceUser := all_some admitted.sound }
  | arg name value =>
    have new : ArgumentSound (name, value) := ⟨unbroken_variable checked.1, fun text given =>
      Text.unbroken_of_noControl (checked.2 text given)⟩
    exact { sound with args := all_insert sound.args new }
  | env key value =>
    have new := And.intro (unbroken_variable checked.1) (Text.unbroken_of_noControl checked.2)
    exact { sound with environment := all_insert sound.environment new }
  | port number protocol =>
    simp only [Setting.change]
    split
    · exact sound
    · exact { sound with }
  | volume path =>
    simp only [Setting.change]
    split
    · exact sound
    · exact { sound with }
  | workdir path =>
    exact { sound with workdir := all_some (Text.unbroken_of_noControl checked) }
  | copy files => exact { sound with copies := all_append sound.copies admitted.sound }
  | run line =>
    exact { sound with runs := all_append sound.runs (Text.unbroken_of_noControl checked) }
  | predefined given => exact { sound with predefined := all_append sound.predefined checked }
  | entrypoint given =>
    cases given with
    | shell line =>
      exact { sound with entrypoint := all_some (Text.unbroken_of_noControl checked) }
    | exec words => exact { sound with entrypoint := all_some trivial }
  | command given =>
    cases given with
    | shell line => exact { sound with command := all_some (Text.unbroken_of_noControl checked) }
    | exec words => exact { sound with command := all_some trivial }
  | isBase flag => exact { sound with }

theorem leads_sound {before after : Stage} (leads : Edit.Leads Calls before after)
    (sound : before.Sound) : after.Sound := by
  refine leads.keeps Sound (fun edit call stage here => ?_) sound
  obtain ⟨setting, admitted, rfl⟩ := call
  exact (setting_assigns setting).left Sound here (here.change admitted)

theorem leads_name {before after : Stage} (leads : Edit.Leads Calls before after) :
    after.name = before.name := by
  refine leads.keeps_view Stage.name fun edit call stage => ?_
  obtain ⟨setting, _, rfl⟩ := call
  exact (setting_assigns setting).left (fun left => left.name = stage.name) rfl
    fun _ => setting.change_name stage

theorem Built.sound {stage : Stage} (built : stage.Built) : stage.Sound := by
  obtain ⟨_, start, created, leads⟩ := built
  exact leads_sound leads (create_sound created).1

/-- The copies of a stage were made by their constructors. -/
theorem Built.copies {stage : Stage} (built : stage.Built) : ∀ files ∈ stage.copies, files.Built := by
  obtain ⟨_, start, created, leads⟩ := built
  refine leads.keeps (fun stage => ∀ files ∈ stage.copies, files.Built)
    (fun edit call stage here => ?_) ?_
  · obtain ⟨setting, admitted, rfl⟩ := call
    refine (setting_assigns setting).left (fun left => ∀ files ∈ left.copies, files.Built) here
      fun _ => ?_
    cases setting with
    | copy files => exact all_append here admitted
    | port | volume =>
      simp only [Setting.change]
      split <;> exact here
    | _ => exact here
  · obtain ⟨_, _, same⟩ := Edit.bind_eq_ok.mp created
    cases same
    exact List.forall_mem_nil _

/-- The paths that a stage hands over are the working directory, or else the distinct destinations
of its copies. -/
theorem ownershipTargets_eq (stage : Stage) : stage.ownershipTargets =
    match stage.workdir with
    | some path => [path]
    | none => (stage.copies.map FileCopy.destination).eraseDups := by
  rw [ownershipTargets]
  cases stage.workdir with
  | some path => rfl
  | none =>
    dsimp only
    rw [← foldl_addNew, List.foldl_map]

theorem mem_ownershipTargets {stage : Stage} {path : String}
    (target : path ∈ stage.ownershipTargets) :
    stage.workdir = some path ∨ ∃ files ∈ stage.copies, files.destination = path := by
  rw [ownershipTargets_eq] at target
  split at target
  · rename_i workdir given
    exact .inl (List.mem_singleton.mp target ▸ given)
  · exact .inr (List.mem_map.mp (List.mem_eraseDups.mp target))

/-- **A rendering of an idle stage** is its text, and changes nothing. -/
theorem render_apply {stage : Stage} (idle : stage.phase = .idle) :
    render.apply stage = (stage.text, stage) := by
  have same : { stage with phase := .idle } = stage := by rw [← idle]
  unfold render
  rw [Edit.apply_bind, Edit.apply_get]
  dsimp only
  rw [RenderPhase.guarded_apply idle, Edit.apply_lift]
  exact congrArg (stage.text, ·) same

theorem render_asks : render.Asks := by
  intro stage
  unfold render
  rw [Edit.apply_bind, Edit.apply_get]
  exact RenderPhase.guarded_asks (.lift _) (fun idle => by rw [← idle]) stage

end Stage

end Script

end ContainerStack
