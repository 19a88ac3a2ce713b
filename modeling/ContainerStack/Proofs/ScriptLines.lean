import ContainerStack.Proofs.InstructionLines
import ContainerStack.Proofs.Templates

/-!
**The lines of a build script.**

Whatever the values are that a template is given, its script has the lines that its stages and their
instructions call for, and no other ones. Every line of a stage begins with the keyword of one
instruction or is indented, so no line can be taken for a banner, for an instruction that is not
there or for the end of a stage.

* `Stage.sequence`: the instructions of a stage; `Sound.middle`, `Sound.bootstraps`: how they stand
  on their lines.
* `Stage.Writes`: how an instruction of a stage is written; `Sound.writes`.
* `Stage.countP_lines`, `Sound.countP_sequence`: how many lines begin with a keyword.
* `PlainStages.banners`, `PlainStages.empties`: where banners and empty lines stand in a script.
* `script_lines`: the lines of a whole script, and when there is none.
-/

namespace ContainerStack.Script

open Text (Unbroken HasLines begins begins_iff pieces unbroken_append)

/-! ### Instructions of a stage -/

namespace Stage

/-- The checks of the accounts of a stage. -/
def bootstraps (stage : Stage) : List Instruction :=
  (stage.buildUser.bind Account.bootstrap).toList ++
    (stage.serviceUser.bind Account.bootstrap).toList

/-- The instructions between the checks of the accounts and the entrypoint. -/
def middle (stage : Stage) : List Instruction :=
  (stage.buildUser.map Account.switch).toList ++ argInstructions stage.args ++
    (stage.environment.toList.map fun (key, value) => .environment key value) ++
    (stage.exposed.map fun (port, protocol) => .expose port protocol) ++
    (if stage.volumes.isEmpty then [] else [.volume stage.volumes]) ++
    (stage.workdir.map Instruction.workdir).toList ++ stage.copies.map Instruction.copy ++
    stage.predefinedRuns .beforeCommands ++ (stage.runs.map fun line => .run [line]) ++
    stage.serviceUserInstructions ++ stage.predefinedRuns .afterCommands

/-- The instructions of a stage with a base image. -/
def sequence (stage : Stage) (base : BaseImage) : List Instruction :=
  argInstructions stage.globalArgs ++ [.base base.image base.knownAs] ++ stage.bootstraps ++
    stage.middle ++ (stage.entrypoint.map Instruction.entrypoint).toList ++
    (stage.command.map Instruction.command).toList

theorem instructions_eq_ok {stage : Stage} {instructions : List Instruction}
    (made : stage.instructions = .ok instructions) :
    ∃ base, stage.base = some base ∧ instructions = stage.sequence base := by
  unfold Stage.instructions at made
  split at made
  · cases made
  · rename_i base given
    obtain ⟨_, _, same⟩ := Edit.bind_eq_ok.mp made
    refine ⟨base, given, (Except.ok.inj same).symm.trans ?_⟩
    simp only [sequence, bootstraps, middle, List.append_assoc]

theorem onOneLine_arguments {args : OrderedMap (Option String)}
    (sound : ∀ entry ∈ args.entries, ArgumentSound entry) :
    ∀ instruction ∈ argInstructions args, instruction.OnOneLine ∧ instruction.isInner = true := by
  intro instruction member
  obtain ⟨entry, listed, rfl⟩ := List.mem_map.mp member
  exact ⟨sound entry listed, rfl⟩

section Groups

variable {stage : Stage}

theorem Sound.predefinedRuns (sound : stage.Sound) (phase : PredefinedPhase) :
    ∀ instruction ∈ stage.predefinedRuns phase,
      instruction.OnOneLine ∧ instruction.isInner = true := by
  intro instruction member
  obtain ⟨command, listed, rfl⟩ := List.mem_map.mp member
  have valid := sound.predefined command (List.mem_of_mem_filter listed)
  exact ⟨⟨_, rfl, Predefined.unbroken_command valid⟩, rfl⟩

theorem Sound.ownershipTargets (sound : stage.Sound) :
    ∀ path ∈ stage.ownershipTargets, Unbroken path := by
  intro path target
  rcases mem_ownershipTargets target with given | ⟨files, listed, rfl⟩
  · exact sound.workdir path given
  · exact (sound.copies files listed).destination

theorem Sound.serviceUserInstructions (sound : stage.Sound) :
    ∀ instruction ∈ stage.serviceUserInstructions,
      instruction.OnOneLine ∧ instruction.isInner = true := by
  intro instruction member
  unfold Stage.serviceUserInstructions at member
  split at member
  · cases member
  · rename_i account given
    have plain := sound.serviceUser account given
    dsimp only at member
    rcases List.mem_append.mp member with ownership | switch
    · split at ownership
      · cases ownership
      rcases List.mem_append.mp ownership with root | change
      · split at root
        · cases List.mem_singleton.mp root
          exact ⟨⟨by decide, nofun⟩, rfl⟩
        · cases root
      · cases List.mem_singleton.mp change
        have targets : Unbroken (String.intercalate " " stage.ownershipTargets) :=
          Text.unbroken_intercalate (by decide) sound.ownershipTargets
        refine ⟨⟨_, rfl, ?_⟩, rfl⟩
        simp only [unbroken_append]
        exact ⟨⟨⟨by decide, plain.owner⟩, by decide⟩, targets⟩
    · cases List.mem_singleton.mp switch
      exact ⟨⟨plain.name, plain.group⟩, rfl⟩

/-- **Between the checks and the entrypoint** every instruction stands on one line. -/
theorem Sound.middle (sound : stage.Sound) : ∀ instruction ∈ stage.middle,
    instruction.OnOneLine ∧ instruction.isInner = true := by
  intro instruction member
  simp only [Stage.middle, List.mem_append, or_assoc] at member
  rcases member with switch | arg | variable' | port | volume | workdir | copy | before | run |
    service | after
  · obtain ⟨account, given, rfl⟩ := Option.map_eq_some_iff.mp (Option.mem_toList.mp switch)
    have plain := sound.buildUser account given
    exact ⟨⟨plain.name, plain.group⟩, rfl⟩
  · exact onOneLine_arguments sound.args instruction arg
  · obtain ⟨entry, listed, rfl⟩ := List.mem_map.mp variable'
    exact ⟨sound.environment entry listed, rfl⟩
  · obtain ⟨entry, _, rfl⟩ := List.mem_map.mp port
    exact ⟨trivial, rfl⟩
  · split at volume
    · cases volume
    · cases List.mem_singleton.mp volume
      exact ⟨trivial, rfl⟩
  · obtain ⟨path, given, rfl⟩ := Option.map_eq_some_iff.mp (Option.mem_toList.mp workdir)
    exact ⟨sound.workdir path given, rfl⟩
  · obtain ⟨files, listed, rfl⟩ := List.mem_map.mp copy
    exact ⟨sound.copies files listed, rfl⟩
  · exact sound.predefinedRuns _ instruction before
  · obtain ⟨line, listed, rfl⟩ := List.mem_map.mp run
    exact ⟨⟨line, rfl, sound.runs line listed⟩, rfl⟩
  · exact sound.serviceUserInstructions instruction service
  · exact sound.predefinedRuns _ instruction after

theorem Sound.bootstraps (sound : stage.Sound) {instruction : Instruction}
    (member : instruction ∈ stage.bootstraps) : ∃ first rest,
      instruction = .run (first :: rest) ∧ rest ≠ [] ∧ ∀ line ∈ first :: rest, Unbroken line := by
  rcases List.mem_append.mp member with build | service
  · obtain ⟨account, given, made⟩ := Option.bind_eq_some_iff.mp (Option.mem_toList.mp build)
    exact (sound.buildUser account given).bootstrap made
  · obtain ⟨account, given, made⟩ := Option.bind_eq_some_iff.mp (Option.mem_toList.mp service)
    exact (sound.serviceUser account given).bootstrap made

/-- **Every instruction of a stage stands on one line**, or it is the checks of an account. -/
theorem Sound.sequence (sound : stage.Sound) {base : BaseImage} (given : stage.base = some base)
    {instruction : Instruction} (member : instruction ∈ stage.sequence base) :
    instruction ∈ stage.bootstraps ∨ instruction.OnOneLine := by
  simp only [Stage.sequence, List.mem_append, or_assoc] at member
  rcases member with arg | image | checks | middle | entrypoint | command
  · exact .inr (onOneLine_arguments sound.globalArgs instruction arg).1
  · cases List.mem_singleton.mp image
    exact .inr (sound.base base given)
  · exact .inl checks
  · exact .inr (sound.middle instruction middle).1
  · obtain ⟨words, given, rfl⟩ := Option.map_eq_some_iff.mp (Option.mem_toList.mp entrypoint)
    exact .inr (sound.entrypoint words given)
  · obtain ⟨words, given, rfl⟩ := Option.map_eq_some_iff.mp (Option.mem_toList.mp command)
    exact .inr (sound.command words given)

/-- How an instruction of a stage is written: its first line begins with its keyword, and other
lines, which the checks of an account have and nothing else, are indented. -/
def Writes (stage : Stage) (instruction : Instruction) : Prop :=
  ∃ first others, instruction.lines = first :: others ∧
    begins (instruction.keyword ++ " ") first = true ∧
    (∀ line ∈ others, begins "    " line = true) ∧
    (others ≠ [] ↔ instruction ∈ stage.bootstraps)

/-- **Every instruction of a sound stage is written like that.** -/
theorem Sound.writes (sound : stage.Sound) {base : BaseImage} (given : stage.base = some base)
    {instruction : Instruction} (member : instruction ∈ stage.sequence base) :
    stage.Writes instruction := by
  by_cases checks : instruction ∈ stage.bootstraps
  · obtain ⟨first, rest, rfl, several, plain⟩ := sound.bootstraps checks
    obtain ⟨head, others, lines, word, length, indented⟩ :=
      @Instruction.pieces_joined "RUN " first rest (by decide) plain
    refine ⟨head, others, lines, word, indented, fun _ => checks, fun _ => ?_⟩
    rw [← List.length_pos_iff, length]
    exact List.length_pos_iff.mpr several
  · have plain := (sound.sequence given member).resolve_left checks
    exact ⟨instruction.text, [], Instruction.lines_of_onOneLine plain, instruction.begins_text,
      nofun, fun several => absurd rfl several, fun there => absurd there checks⟩

end Groups

/-! ### How often a keyword occurs -/

/-- A line that begins with the keyword of an instruction begins with no other one. -/
theorem begins_keyword {instruction : Instruction} {keyword line : String}
    (listed : keyword ∈ Instruction.keywords)
    (word : begins (instruction.keyword ++ " ") line = true) :
    begins (keyword ++ " ") line = (instruction.keyword == keyword) := by
  by_cases same : instruction.keyword = keyword
  · rw [← same, word, beq_self_eq_true]
  · rw [beq_eq_false_iff_ne.mpr same, ← Bool.not_eq_true]
    intro other
    rcases Text.begins_or_begins word other with first | second
    · exact same (Instruction.keywords_apart _ instruction.keyword_mem _ listed first)
    · exact same (Instruction.keywords_apart _ listed _ instruction.keyword_mem second).symm

/-- An indented line begins with no keyword. -/
theorem not_begins_of_indented {keyword line : String} (listed : keyword ∈ Instruction.keywords)
    (indented : begins "    " line = true) : begins (keyword ++ " ") line = false := by
  obtain ⟨notOther, notSelf⟩ := Instruction.keywords_notIndented keyword listed
  rw [← Bool.not_eq_true]
  intro word
  rcases Text.begins_or_begins indented word with first | second
  · rw [notSelf] at first
    cases first
  · rw [notOther] at second
    cases second

/-- **As many lines begin with a keyword as there are instructions of it.** -/
theorem countP_lines {stage : Stage} {keyword : String} (listed : keyword ∈ Instruction.keywords)
    {instructions : List Instruction} (each : ∀ other ∈ instructions, stage.Writes other) :
    (instructions.flatMap Instruction.lines).countP (begins (keyword ++ " ")) =
      instructions.countP (·.keyword == keyword) := by
  induction instructions with
  | nil => rfl
  | cons instruction rest ih =>
    have later := ih fun other member => each other (List.mem_cons_of_mem instruction member)
    obtain ⟨first, others, lines, word, indented, _⟩ := each instruction List.mem_cons_self
    have none : others.countP (begins (keyword ++ " ")) = 0 := by
      rw [List.countP_eq_zero]
      intro line member
      rw [not_begins_of_indented listed (indented line member)]
      exact Bool.false_ne_true
    rw [List.flatMap_cons, List.countP_append, later, lines, List.countP_cons, List.countP_cons,
      none, begins_keyword listed word]
    omega

/-- Inner instructions do not count. -/
theorem countP_inner {keyword : String} (outer : keyword ∈ Instruction.outerKeywords)
    {instructions : List Instruction} (inner : ∀ other ∈ instructions, other.isInner = true) :
    instructions.countP (·.keyword == keyword) = 0 := by
  rw [List.countP_eq_zero]
  intro instruction member same
  have notOuter := Instruction.keyword_notMem_outer (inner instruction member)
  rw [beq_iff_eq.mp same] at notOuter
  exact notOuter outer

/-- **The base image, the entrypoint and the command** are all that is no inner instruction. -/
theorem Sound.countP_sequence {stage : Stage} (sound : stage.Sound) (base : BaseImage)
    {keyword : String} (outer : keyword ∈ Instruction.outerKeywords) :
    (stage.sequence base).countP (·.keyword == keyword) =
      [Instruction.base base.image base.knownAs].countP (·.keyword == keyword) +
        (stage.entrypoint.map Instruction.entrypoint).toList.countP (·.keyword == keyword) +
        (stage.command.map Instruction.command).toList.countP (·.keyword == keyword) := by
  have globalArgs : (argInstructions stage.globalArgs).countP (·.keyword == keyword) = 0 :=
    countP_inner outer fun other member =>
      (onOneLine_arguments sound.globalArgs other member).2
  have checks : stage.bootstraps.countP (·.keyword == keyword) = 0 :=
    countP_inner outer fun other member => by
      obtain ⟨_, _, rfl, _⟩ := sound.bootstraps member
      rfl
  have middle : stage.middle.countP (·.keyword == keyword) = 0 :=
    countP_inner outer fun other member => (sound.middle other member).2
  simp only [Stage.sequence, List.countP_append, globalArgs, checks, middle]
  omega

/-! ### Lines of a stage -/

/-- The lines of a stage, as far as it can be rendered. -/
def lines (stage : Stage) : List String :=
  match stage.instructions with
  | .ok instructions => instructions.flatMap Instruction.lines
  | .error _ => []

theorem hasLines_text {stage : Stage} {text : String} (made : stage.text = .ok text) :
    HasLines text stage.lines := by
  obtain ⟨instructions, sequence, same⟩ := Edit.bind_eq_ok.mp made
  cases same
  have texts : (instructions.map fun instruction => instruction.text ++ "\n") =
      (instructions.map Instruction.text).map (· ++ "\n") := by
    rw [List.map_map]
    rfl
  have lines : stage.lines = (instructions.map Instruction.text).flatMap (pieces '\n') := by
    rw [Stage.lines, sequence, List.flatMap_map]
    rfl
  rw [lines, texts]
  exact Text.hasLines_join _

/-- **What the lines of a stage are**: those of its instructions, each of which is written as it
should be, with one base image and at most one entrypoint and one command among them. -/
structure Shown (stage : Stage) : Prop where
  rendered : ∃ text, (Stage.render.apply stage).1 = .ok text ∧ HasLines text stage.lines
  instructions : ∃ instructions, stage.instructions = .ok instructions ∧
    stage.lines = instructions.flatMap Instruction.lines ∧
    ∀ instruction ∈ instructions, stage.Writes instruction
  bases : stage.lines.countP (begins "FROM ") = 1
  entrypoints : stage.lines.countP (begins "ENTRYPOINT ") ≤ 1
  commands : stage.lines.countP (begins "CMD ") ≤ 1

/-- A stage that is rendered has a base image, and its lines are those of its instructions. -/
theorem lines_eq {stage : Stage} {text : String} (made : stage.text = .ok text) :
    ∃ base, stage.base = some base ∧ stage.instructions = .ok (stage.sequence base) ∧
      stage.lines = (stage.sequence base).flatMap Instruction.lines := by
  obtain ⟨instructions, listed, _⟩ := Edit.bind_eq_ok.mp made
  obtain ⟨base, given, rfl⟩ := instructions_eq_ok listed
  refine ⟨base, given, listed, ?_⟩
  rw [Stage.lines, listed]

/-- **How many lines of a stage begin with a keyword** that is not one of an inner instruction. -/
theorem Sound.countP_outer {stage : Stage} (sound : stage.Sound) {text : String}
    (made : stage.text = .ok text) : ∃ base : BaseImage, ∀ keyword ∈ Instruction.outerKeywords,
      stage.lines.countP (begins (keyword ++ " ")) =
        [Instruction.base base.image base.knownAs].countP (·.keyword == keyword) +
          (stage.entrypoint.map Instruction.entrypoint).toList.countP (·.keyword == keyword) +
          (stage.command.map Instruction.command).toList.countP (·.keyword == keyword) := by
  obtain ⟨base, given, _, lines⟩ := lines_eq made
  refine ⟨base, fun keyword outer => ?_⟩
  have known : keyword ∈ Instruction.keywords := Instruction.outerKeywords_known keyword outer
  rw [lines, countP_lines known fun _ member => sound.writes given member,
    sound.countP_sequence base outer]

/-- **A stage that is rendered is shown like that.** -/
theorem Sound.shown {stage : Stage} (sound : stage.Sound) {text : String}
    (made : stage.text = .ok text) : stage.Shown := by
  obtain ⟨base, given, listed, lines⟩ := lines_eq made
  obtain ⟨image, count⟩ := sound.countP_outer made
  constructor
  case rendered => exact ⟨text, by rw [render_apply sound.idle, made], hasLines_text made⟩
  case instructions => exact ⟨_, listed, lines, fun _ member => sound.writes given member⟩
  case bases =>
    refine (count "FROM" (by decide)).trans ?_
    cases stage.entrypoint <;> cases stage.command <;> rfl
  case entrypoints =>
    show stage.lines.countP (begins ("ENTRYPOINT" ++ " ")) ≤ 1
    rw [count "ENTRYPOINT" (by decide)]
    cases stage.entrypoint <;> cases stage.command <;> simp [Instruction.keyword]
  case commands =>
    show stage.lines.countP (begins ("CMD" ++ " ")) ≤ 1
    rw [count "CMD" (by decide)]
    cases stage.entrypoint <;> cases stage.command <;> simp [Instruction.keyword]

/-- **No line of a stage is empty or begins as a banner does.** -/
theorem Sound.plain_lines {stage : Stage} (sound : stage.Sound) {text : String}
    (made : stage.text = .ok text) :
    ∀ line ∈ stage.lines, begins "# ---- stage: " line = false ∧ line ≠ "" := by
  intro line member
  constructor
  · -- A banner begins as a comment does, and a stage has no comments.
    obtain ⟨image, count⟩ := sound.countP_outer made
    have none : stage.lines.countP (begins ("#" ++ " ")) = 0 := by
      refine (count "#" (by decide)).trans ?_
      cases stage.entrypoint <;> cases stage.command <;> rfl
    have noComment := List.countP_eq_zero.mp none line member
    rw [← Bool.not_eq_true]
    intro banner
    obtain ⟨rest, rfl⟩ := begins_iff.mp banner
    exact noComment (Text.begins_of_append (by decide) rest)
  · obtain ⟨base, given, _, lines⟩ := lines_eq made
    rw [lines, List.mem_flatMap] at member
    obtain ⟨instruction, listed, member⟩ := member
    obtain ⟨first, others, same, word, indented, _⟩ := sound.writes given listed
    rw [same] at member
    rcases List.mem_cons.mp member with rfl | other
    · exact Text.ne_empty_of_begins word (by simp)
    · exact Text.ne_empty_of_begins (indented line other) (by decide)

/-- The line above a stage. -/
def banner (stage : Stage) : String := "# ---- stage: " ++ stage.name ++ " ----"

end Stage

/-! ### Lines of a script -/

namespace Template

/-- **What a rendering shows of a stage**: its banner and its own rendering. -/
theorem renderSection_answer (stage : Stage) : (renderSection.apply stage).1 =
    (Stage.render.apply stage).1.map fun text => stage.banner ++ "\n" ++ text := by
  have banner : (Instruction.comment ("---- stage: " ++ stage.name ++ " ----")).text =
      stage.banner := by
    have mark : "# " ++ "---- stage: " = "# ---- stage: " := rfl
    show "# " ++ ("---- stage: " ++ stage.name ++ " ----") = stage.banner
    rw [← String.append_assoc, ← String.append_assoc, mark]
    rfl
  unfold renderSection
  rw [Edit.apply_bind, Edit.apply_get]
  dsimp only
  rw [Edit.apply_bind, banner]
  rcases Stage.render.apply stage with ⟨_ | text, left⟩ <;> rfl

theorem renderSection_ok {stage : Stage} :
    (∃ shown, (renderSection.apply stage).1 = .ok shown) ↔
      ∃ text, (Stage.render.apply stage).1 = .ok text := by
  rw [renderSection_answer]
  cases (Stage.render.apply stage).1 with
  | error fault => simp [Except.map]
  | ok text => simp [Except.map]

theorem renderSection_error {stage : Stage} {fault : Fault} :
    (renderSection.apply stage).1 = .error fault ↔ (Stage.render.apply stage).1 = .error fault := by
  rw [renderSection_answer]
  cases (Stage.render.apply stage).1 with
  | error first => simp [Except.map]
  | ok text => simp [Except.map]

/-- The lines of the script: those of the stages under their banners, with an empty line between two
stages. -/
def lines (template : Template) : List String :=
  List.intercalate [""] (template.stages.toList.map fun stage => stage.banner :: stage.lines)

section Groups

variable {α : Type} {separator : α} {groups : List (List α)}

theorem filter_intercalate {holds : α → Bool} (lacks : holds separator = false) :
    (List.intercalate [separator] groups).filter holds = groups.flatMap (List.filter holds) := by
  induction groups with
  | nil => rfl
  | cons group rest ih =>
    cases rest with
    | nil => rw [List.intercalate_singleton, List.flatMap_singleton]
    | cons next more =>
      rw [List.intercalate_cons_cons, List.filter_append, List.filter_append, ih]
      simp [lacks]

theorem count_intercalate [BEq α] [LawfulBEq α] (apart : ∀ group ∈ groups, separator ∉ group)
    (nonempty : groups ≠ []) :
    (List.intercalate [separator] groups).count separator + 1 = groups.length := by
  induction groups with
  | nil => exact absurd rfl nonempty
  | cons group rest ih =>
    have here := List.count_eq_zero.mpr (apart group List.mem_cons_self)
    cases rest with
    | nil => rw [List.intercalate_singleton, here]; rfl
    | cons next more =>
      have later := ih (fun other member => apart other (List.mem_cons_of_mem group member))
        (List.cons_ne_nil next more)
      rw [List.intercalate_cons_cons, List.count_append, List.count_append, here]
      simp only [List.count_singleton_self, List.length_cons] at later ⊢
      omega

end Groups

theorem begins_banner (stage : Stage) : begins "# ---- stage: " stage.banner = true :=
  Text.begins_of_append (Text.begins_append _ stage.name) _

theorem unbroken_banner {stage : Stage} (sound : stage.Sound) : Unbroken stage.banner := by
  unfold Stage.banner
  rw [unbroken_append, unbroken_append]
  exact ⟨⟨by decide, Text.unbroken_of_shape sound.named rfl rfl⟩, by decide⟩

/-- What is shown of a stage has the lines of the stage under its banner. -/
theorem hasLines_section {stage : Stage} (sound : stage.Sound) {shown : String}
    (rendered : (renderSection.apply stage).1 = .ok shown) :
    HasLines shown (stage.banner :: stage.lines) := by
  rw [renderSection_answer, Stage.render_apply sound.idle] at rendered
  cases made : stage.text with
  | error fault =>
    rw [made] at rendered
    cases rendered
  | ok text =>
    rw [made] at rendered
    cases rendered
    exact .cons (Text.pieces_of_unbroken (unbroken_banner sound)) (Stage.hasLines_text made)

section Scripts

variable {template : Template}

/-- No line of a stage begins as a banner does, and none of them is empty. -/
def PlainStages (template : Template) : Prop :=
  ∀ stage ∈ template.stages.toList, ∀ line ∈ stage.lines,
    begins "# ---- stage: " line = false ∧ line ≠ ""

/-- **The lines that begin as a banner does are the banners** of the stages, in their order. -/
theorem PlainStages.banners (plain : template.PlainStages) :
    template.lines.filter (begins "# ---- stage: ") =
      template.stages.toList.map Stage.banner := by
  have own : ∀ stage ∈ template.stages.toList,
      (stage.banner :: stage.lines).filter (begins "# ---- stage: ") = [stage.banner] := by
    intro stage member
    have others : stage.lines.filter (begins "# ---- stage: ") = [] := by
      rw [List.filter_eq_nil_iff]
      intro line listed
      rw [(plain stage member line listed).1]
      exact Bool.false_ne_true
    rw [List.filter_cons_of_pos (begins_banner stage), others]
  rw [lines, filter_intercalate (by decide), List.flatMap_map, List.map_eq_flatMap]
  exact List.flatMap_congr own

/-- **The empty lines stand between the stages**, and nowhere else. -/
theorem PlainStages.empties (plain : template.PlainStages)
    (nonempty : template.stages.toList ≠ []) :
    template.lines.count "" + 1 = template.stages.toList.length := by
  have apart : ∀ group ∈ template.stages.toList.map fun stage => stage.banner :: stage.lines,
      "" ∉ group := by
    intro group member
    obtain ⟨stage, listed, rfl⟩ := List.mem_map.mp member
    rw [List.mem_cons, not_or]
    exact ⟨(Text.ne_empty_of_begins (begins_banner stage) (by decide)).symm,
      fun blank => (plain stage listed "" blank).2 rfl⟩
  rw [lines, count_intercalate apart (by simpa using nonempty), List.length_map]

/-- **A script has the lines of its stages**, if all of them are shown. -/
theorem hasLines_sections (sound : ∀ stage ∈ template.stages.toList, stage.Sound)
    (nonempty : template.stages.toList ≠ []) {sections : List String}
    (shown : (template.stages.toList.mapM fun stage => (renderSection.apply stage).1) =
      .ok sections) :
    HasLines (String.intercalate "\n" sections) template.lines := by
  have related := (List.forall₂_and_left _ _).mpr ⟨sound, Edit.mapM_eq_ok.mp shown⟩
  have several : sections ≠ [] := by
    rintro rfl
    exact nonempty (List.forall₂_nil_right_iff.mp related)
  refine .intercalate ?_ several
  refine List.forall₂_map_right_iff.mpr (List.Forall₂.flip (related.imp ?_))
  exact fun stage shown both => hasLines_section both.1 both.2

theorem stages_isEmpty : template.stages.isEmpty = true ↔ template.stages.toList = [] := by
  show template.stages.entries.entries.isEmpty = true ↔ _
  rw [List.isEmpty_iff]
  exact List.map_eq_nil_iff.symm

/-- **A script** shows all stages, of which there is at least one. -/
theorem render_eq_ok (idle : template.phase = .idle) {text : String} :
    (render.apply template).1 = .ok text ↔ template.stages.toList ≠ [] ∧ ∃ sections,
      (template.stages.toList.mapM fun stage => (renderSection.apply stage).1) = .ok sections ∧
        text = String.intercalate "\n" sections := by
  rw [render_apply idle]
  split
  · rename_i none
    simp [stages_isEmpty.mp none]
  · rename_i full
    rw [stages_isEmpty] at full
    rw [Edit.bind_eq_ok]
    constructor
    · rintro ⟨sections, shown, ⟨⟩⟩
      exact ⟨full, sections, shown, rfl⟩
    · rintro ⟨_, sections, shown, rfl⟩
      exact ⟨sections, shown, rfl⟩

/-- **A script is refused** if there is no stage, or for the first stage that is refused. -/
theorem render_eq_error (idle : template.phase = .idle) {fault : Fault} :
    (render.apply template).1 = .error fault ↔
      (template.stages.toList = [] ∧ fault = .obstructed .noStages) ∨
      ∃ before stage after, template.stages.toList = before ++ stage :: after ∧
        (∀ other ∈ before, ∃ text, (Stage.render.apply other).1 = .ok text) ∧
        (Stage.render.apply stage).1 = .error fault := by
  rw [render_apply idle]
  split
  · rename_i none
    simp [stages_isEmpty.mp none, eq_comm]
  · rename_i full
    rw [stages_isEmpty] at full
    have refused : (do
        let sections ← template.stages.toList.mapM fun stage => (renderSection.apply stage).1
        return String.intercalate "\n" sections : Except Fault String) = .error fault ↔
        (template.stages.toList.mapM fun stage => (renderSection.apply stage).1) =
          .error fault := by
      cases template.stages.toList.mapM fun stage => (renderSection.apply stage).1 <;>
        simp [bind, Except.bind, pure, Except.pure]
    rw [refused, Edit.mapM_eq_error_iff]
    simp only [full, false_and, false_or, renderSection_ok, renderSection_error]

end Scripts

end Template

/-- **No value can change the structure of a build script.** Whatever text a template is given by
any run of operations, a script that is rendered has exactly the lines of its stages, each under its
banner and as it is rendered alone, with one empty line between two stages and no other one. No
other line begins as a banner does, and the lines of a stage are those of its instructions. A script
is refused exactly if there is no stage, or with the fault of the first stage that is refused. -/
theorem script_lines {template : Template} (reached : template.Reached) :
    (∀ text, (Template.render.apply template).1 = .ok text →
      HasLines text template.lines ∧
      template.lines.filter (begins "# ---- stage: ") = template.stages.toList.map Stage.banner ∧
      template.lines.count "" + 1 = template.stages.toList.length ∧
      ∀ stage ∈ template.stages.toList, stage.Shown) ∧
    ∀ fault, (Template.render.apply template).1 = .error fault ↔
      (template.stages.toList = [] ∧ fault = .obstructed .noStages) ∨
      ∃ before stage after, template.stages.toList = before ++ stage :: after ∧
        (∀ other ∈ before, ∃ text, (Stage.render.apply other).1 = .ok text) ∧
        (Stage.render.apply stage).1 = .error fault := by
  have sound := reached.sound
  have stages : ∀ stage ∈ template.stages.toList, stage.Sound := fun stage member =>
    (sound.stages.of_mem member).sound
  refine ⟨fun text rendered => ?_, fun fault => Template.render_eq_error sound.idle⟩
  obtain ⟨nonempty, sections, shown, rfl⟩ := (Template.render_eq_ok sound.idle).mp rendered
  have made : ∀ stage ∈ template.stages.toList, ∃ text, stage.text = .ok text := by
    intro stage member
    obtain ⟨text, made⟩ :=
      Template.renderSection_ok.mp (Edit.exists_of_mapM_eq_ok shown stage member)
    rw [Stage.render_apply (stages stage member).idle] at made
    exact ⟨text, made⟩
  have plain : template.PlainStages := by
    intro stage member
    obtain ⟨text, made⟩ := made stage member
    exact (stages stage member).plain_lines made
  refine ⟨Template.hasLines_sections stages nonempty shown, plain.banners, plain.empties nonempty,
    fun stage member => ?_⟩
  obtain ⟨text, made⟩ := made stage member
  exact (stages stage member).shown made

/-- A run with values that look like instructions and banners. The command with a line break is
refused, and so is the name with two; the word with a line break is quoted. -/
def Template.awkwardRun {account : Account} (made : Account.ofName "app" = .ok account) :
    List Template.Operation :=
  [.addStage "build",
    .editStage "build" (Stage.Setting.sequence [⟨.base "node:20" (some "deps"), trivial⟩,
      ⟨.buildUser account.ensureUser, .ensureUser (.ofName made)⟩, ⟨.isBase true, trivial⟩]),
    .editStage "build" (Stage.Setting.sequence [⟨.run "npm ci\nCMD evil", trivial⟩]),
    .addStage "run\n\n",
    .addStage "run",
    .editStage "run" (Stage.Setting.sequence [⟨.base "nginx" none, trivial⟩,
      ⟨.env "NOTE" "# ---- stage: fake ----", trivial⟩,
      ⟨.command (.exec ["sh", "one\nFROM two"]), trivial⟩])]

theorem script_lines_awkwardRun :
    ∃ account, ∃ made : Account.ofName "app" = .ok account,
      let left := Template.empty.run (Template.awkwardRun made)
      let text := String.join (["# ---- stage: build ----", "FROM node:20 AS deps",
        "RUN if command -v apk >/dev/null 2>&1; then \\",
        "      (id -u app >/dev/null 2>&1 || adduser -S -D app); \\", "    else \\",
        "      (id -u app >/dev/null 2>&1 || useradd -r -m app); \\", "    fi", "USER app", "",
        "# ---- stage: run ----", "FROM nginx", "ENV NOTE=\"# ---- stage: fake ----\"",
        "CMD [\"sh\",\"one\\nFROM two\"]"].map (· ++ "\n"))
      (Template.render.apply left).1 = .ok text ∧ HasLines text left.lines ∧
      left.lines.filter (begins "# ---- stage: ") = left.stages.toList.map Stage.banner ∧
      left.lines.count "" + 1 = left.stages.toList.length ∧
      ∀ stage ∈ left.stages.toList, stage.Shown := by
  have reached : (Template.empty.run (Template.awkwardRun rfl)).Reached := ⟨_, rfl⟩
  refine ⟨_, rfl, ?rendered, (script_lines reached).1 _ ?rendered⟩
  case rendered => decide +kernel

end ContainerStack.Script
