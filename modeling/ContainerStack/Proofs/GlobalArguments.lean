import ContainerStack.Proofs.ScriptLines

/-!
**Where global arguments stand in a script.**

A stage writes its global arguments above its own base image. What is above the first base image of
a script is therefore what the first stage has declared, and the global arguments of every later
stage stand below the base images of the stages before it.

* `Stage.globalLines`, `BaseImage.line`: the lines of the global arguments and of the base image.
  `Stage.Sound.lines_split`: a stage begins with them.
* `Template.intercalate_split`: the lines above, of and below one stage of a script.
* `Stage.PlacedIn`: after how many base images the global arguments of a stage stand.
* `Template.preamble`: what stands above the first base image.
* `global_arguments_placed`: where the global arguments of every stage stand, and when all of them
  are above the first base image.
-/

namespace ContainerStack.Script

open Text (HasLines begins)

/-! ### The first lines of a stage -/

/-- The line of a base image. -/
def BaseImage.line (base : BaseImage) : String :=
  (Instruction.base base.image base.knownAs).text

theorem BaseImage.begins_line (base : BaseImage) : begins "FROM " base.line = true :=
  (Instruction.base base.image base.knownAs).begins_text

namespace Stage

/-- The lines of the global arguments. -/
def globalLines (stage : Stage) : List String :=
  (argInstructions stage.globalArgs).map Instruction.text

theorem begins_globalLines {stage : Stage} {line : String} (member : line ∈ stage.globalLines) :
    begins "ARG " line = true := by
  obtain ⟨instruction, listed, rfl⟩ := List.mem_map.mp member
  obtain ⟨⟨name, value⟩, _, rfl⟩ := List.mem_map.mp listed
  exact (Instruction.argument name value).begins_text

theorem not_begins_of_argument {line : String} (argument : begins "ARG " line = true) :
    begins "FROM " line = false :=
  @begins_keyword (.argument "" none) "FROM" line (by decide) argument

/-- **A stage begins with its global arguments and its base image.** -/
theorem Sound.lines_split {stage : Stage} (sound : stage.Sound) {text : String}
    (made : stage.text = .ok text) : ∃ base below, stage.base = some base ∧
      stage.lines = stage.globalLines ++ base.line :: below := by
  obtain ⟨base, given, _, lines⟩ := lines_eq made
  have args : (argInstructions stage.globalArgs).flatMap Instruction.lines =
      stage.globalLines := by
    rw [globalLines, List.map_eq_flatMap]
    exact List.flatMap_congr fun instruction member => Instruction.lines_of_onOneLine
      (onOneLine_arguments sound.globalArgs instruction member).1
  have image : [Instruction.base base.image base.knownAs].flatMap Instruction.lines =
      [base.line] := by
    have plain : (Instruction.base base.image base.knownAs).OnOneLine := sound.base base given
    rw [List.flatMap_singleton, Instruction.lines_of_onOneLine plain]
    rfl
  refine ⟨base, (stage.bootstraps ++ (stage.middle ++
    ((stage.entrypoint.map Instruction.entrypoint).toList ++
      (stage.command.map Instruction.command).toList))).flatMap Instruction.lines, given, ?_⟩
  rw [lines, Stage.sequence]
  simp only [List.append_assoc, List.flatMap_append]
  rw [args, image]
  rfl

/-- A line that cannot begin as a banner does is no banner. -/
theorem not_begins_banner {word : String} (shorter : begins word "# ---- stage: " = false)
    (longer : begins "# ---- stage: " word = false) (stage : Stage) :
    begins word stage.banner = false := by
  rw [← Bool.not_eq_true]
  intro same
  rcases Text.begins_or_begins (Template.begins_banner stage) same with first | second
  · rw [longer] at first
    cases first
  · rw [shorter] at second
    cases second

/-- **Above the base image of a stage** there is no other one. -/
theorem not_begins_head (stage : Stage) : ∀ line ∈ stage.banner :: stage.globalLines,
    begins "FROM " line = false := by
  refine List.forall_mem_cons.mpr ⟨stage.not_begins_banner (by decide) (by decide), ?_⟩
  intro line member
  exact not_begins_of_argument (begins_globalLines member)

end Stage

/-! ### The place of a stage in a script -/

namespace Template

/-- **One group among others with a separator between them.** -/
theorem intercalate_split {α : Type} (separator : α) (before : List (List α)) (group : List α)
    (after : List (List α)) :
    List.intercalate [separator] (before ++ group :: after) =
      before.flatMap (· ++ [separator]) ++ (group ++ after.flatMap (separator :: ·)) := by
  induction before with
  | nil =>
    show List.intercalate [separator] (group :: after) = group ++ after.flatMap (separator :: ·)
    induction after generalizing group with
    | nil => rw [List.intercalate_singleton, List.flatMap_nil, List.append_nil]
    | cons next rest ih =>
      rw [List.intercalate_cons_cons, ih, List.flatMap_cons]
      simp only [List.append_assoc, List.cons_append, List.nil_append]
  | cons first rest ih =>
    obtain ⟨next, others, same⟩ : ∃ next others, rest ++ group :: after = next :: others :=
      List.exists_cons_of_ne_nil (by simp)
    rw [List.cons_append, same, List.intercalate_cons_cons, ← same, ih, List.flatMap_cons]
    simp only [List.append_assoc]

end Template

/-- The global arguments of a stage stand between its banner and its base image, and so many base
images stand above them. -/
def Stage.PlacedIn (lines : List String) (earlier : Nat) (stage : Stage) : Prop :=
  ∃ above base below, stage.base = some base ∧
    lines = above ++ stage.banner :: (stage.globalLines ++ base.line :: below) ∧
    above.countP (begins "FROM ") = earlier

namespace Template

/-- The lines above the first base image. -/
def preamble (template : Template) : List String :=
  template.lines.takeWhile fun line => !begins "FROM " line

/-- A script is rendered if there is a stage and every stage has a text. -/
theorem Sound.rendered {template : Template} (sound : template.Sound) {text : String}
    (rendered : (render.apply template).1 = .ok text) :
    template.stages.toList ≠ [] ∧ HasLines text template.lines ∧
      ∀ stage ∈ template.stages.toList, stage.Sound ∧ ∃ own, stage.text = .ok own := by
  have stages : ∀ stage ∈ template.stages.toList, stage.Sound := fun stage member =>
    (sound.stages.of_mem member).sound
  obtain ⟨nonempty, sections, shown, rfl⟩ := (render_eq_ok sound.idle).mp rendered
  refine ⟨nonempty, hasLines_sections stages nonempty shown, fun stage member =>
    ⟨stages stage member, ?_⟩⟩
  obtain ⟨own, made⟩ := renderSection_ok.mp (Edit.exists_of_mapM_eq_ok shown stage member)
  rw [Stage.render_apply (stages stage member).idle] at made
  exact ⟨own, made⟩

section Places

variable {template : Template}

/-- The lines of some stages, each with the empty line that separates it from the next one. -/
def linesAbove (before : List Stage) : List String :=
  before.flatMap fun stage => stage.banner :: (stage.lines ++ [""])

/-- **Every stage has one base image**, so that the stages above a line are as many as theirs. -/
theorem countP_linesAbove {before : List Stage}
    (made : ∀ stage ∈ before, stage.Sound ∧ ∃ own, stage.text = .ok own) :
    (linesAbove before).countP (begins "FROM ") = before.length := by
  induction before with
  | nil => rfl
  | cons stage rest ih =>
    obtain ⟨sound, own, text⟩ := made stage List.mem_cons_self
    have later := ih fun other member => made other (List.mem_cons_of_mem stage member)
    have banner := stage.not_begins_head _ List.mem_cons_self
    have empty : begins "FROM " "" = false := by decide
    rw [linesAbove] at later ⊢
    rw [List.flatMap_cons, List.countP_append, later, List.countP_cons, List.countP_append,
      (sound.shown text).bases, banner, List.countP_singleton, empty, List.length_cons]
    simp only [Bool.false_eq_true, if_false]
    omega

/-- **The lines of a script, seen from one stage**: those of the stages before it, its banner, its
global arguments, its base image, and what is below. -/
theorem lines_split {before after : List Stage} {stage : Stage}
    (place : template.stages.toList = before ++ stage :: after)
    (made : ∀ stage ∈ template.stages.toList, stage.Sound ∧ ∃ own, stage.text = .ok own) :
    ∃ base below, stage.base = some base ∧ template.lines =
      linesAbove before ++ stage.banner :: (stage.globalLines ++ base.line :: below) := by
  have member : stage ∈ template.stages.toList :=
    place ▸ List.mem_append_right before List.mem_cons_self
  obtain ⟨sound, own, text⟩ := made stage member
  obtain ⟨base, below, given, lines⟩ := sound.lines_split text
  have above : (before.map fun stage => stage.banner :: stage.lines).flatMap (· ++ [""]) =
      linesAbove before := List.flatMap_map ..
  refine ⟨base, below ++ (after.map fun stage => stage.banner :: stage.lines).flatMap ("" :: ·),
    given, ?_⟩
  rw [Template.lines, place, List.map_append, List.map_cons, intercalate_split, above, lines]
  simp only [List.cons_append, List.append_assoc]

theorem placedIn {before after : List Stage} {stage : Stage}
    (place : template.stages.toList = before ++ stage :: after)
    (made : ∀ stage ∈ template.stages.toList, stage.Sound ∧ ∃ own, stage.text = .ok own) :
    stage.PlacedIn template.lines before.length := by
  obtain ⟨base, below, given, lines⟩ := lines_split place made
  refine ⟨linesAbove before, base, below, given, lines, countP_linesAbove ?_⟩
  exact fun other listed => made other (place ▸ List.mem_append_left _ listed)

/-- **Above the first base image** stands what the first stage has there. -/
theorem preamble_eq {first : Stage} {rest : List Stage}
    (place : template.stages.toList = first :: rest)
    (made : ∀ stage ∈ template.stages.toList, stage.Sound ∧ ∃ own, stage.text = .ok own) :
    template.preamble = first.banner :: first.globalLines := by
  obtain ⟨base, below, _, lines⟩ := @lines_split template [] rest first place made
  have head : ∀ line ∈ first.banner :: first.globalLines, (!begins "FROM " line) = true := by
    intro line member
    rw [first.not_begins_head line member]
    rfl
  have image : (base.line :: below).takeWhile (fun line => !begins "FROM " line) = [] :=
    List.takeWhile_cons_of_neg (by simp [base.begins_line])
  have cut : template.lines = (first.banner :: first.globalLines) ++ base.line :: below := lines
  rw [preamble, cut, List.takeWhile_append_of_pos head, image, List.append_nil]

/-- All global arguments stand above the first base image if the first stage has those of the later
ones. -/
theorem preamble_complete {first : Stage} {rest : List Stage}
    (place : template.stages.toList = first :: rest)
    (preamble : template.preamble = first.banner :: first.globalLines) :
    (∀ stage ∈ template.stages.toList, ∀ line ∈ stage.globalLines, line ∈ template.preamble) ↔
      ∀ stage ∈ rest, ∀ line ∈ stage.globalLines, line ∈ first.globalLines := by
  rw [place, preamble]
  constructor
  · intro all stage member line listed
    have above := all stage (List.mem_cons_of_mem first member) line listed
    refine (List.mem_cons.mp above).resolve_left ?_
    rintro rfl
    have argument := Stage.begins_globalLines listed
    rw [first.not_begins_banner (by decide) (by decide)] at argument
    cases argument
  · intro later
    refine List.forall_mem_cons.mpr ⟨fun line => List.mem_cons_of_mem _, ?_⟩
    exact fun stage member line listed => List.mem_cons_of_mem _ (later stage member line listed)

end Places

end Template

/-- **Where global arguments stand.** In the script of every template that is reached, the global
arguments of a stage stand directly above the base image of the stage, below the base images of all
stages before it. Above the first base image are those of the first stage, and so the ones of the
other stages are there only if the first stage declares them too. -/
theorem global_arguments_placed {template : Template} (reached : template.Reached) {text : String}
    (rendered : (Template.render.apply template).1 = .ok text) :
    HasLines text template.lines ∧
      (∀ before stage after, template.stages.toList = before ++ stage :: after →
        stage.PlacedIn template.lines before.length) ∧
      ∃ first rest, template.stages.toList = first :: rest ∧
        template.preamble = first.banner :: first.globalLines ∧
        ((∀ stage ∈ template.stages.toList, ∀ line ∈ stage.globalLines,
            line ∈ template.preamble) ↔
          ∀ stage ∈ rest, ∀ line ∈ stage.globalLines, line ∈ first.globalLines) := by
  obtain ⟨nonempty, lines, made⟩ := reached.sound.rendered rendered
  obtain ⟨first, rest, place⟩ := List.exists_cons_of_ne_nil nonempty
  have preamble := Template.preamble_eq place made
  refine ⟨lines, fun before stage after place => Template.placedIn place made, first, rest, place,
    preamble, Template.preamble_complete place preamble⟩

/-- A run with two stages, of which the second declares the version in its base image as a global
argument. -/
def Template.versionRun : List Template.Operation :=
  [.addStage "deps",
    .editStage "deps" (Stage.Setting.sequence [⟨.isBase true, trivial⟩,
      ⟨.base "node:18-alpine" (some "deps"), trivial⟩]),
    .addStage "runtime",
    .editStage "runtime" (Stage.Setting.sequence [⟨.globalArg "NODE_TAG" (some "18"), trivial⟩,
      ⟨.base "node:${NODE_TAG}-alpine" none, trivial⟩,
      ⟨.command (.exec ["node", "index.js"]), trivial⟩])]

/-- The lines of its script. -/
def Template.versionLines : List String :=
  ["# ---- stage: deps ----", "FROM node:18-alpine AS deps", "", "# ---- stage: runtime ----",
    "ARG NODE_TAG=18", "FROM node:${NODE_TAG}-alpine", "CMD [\"node\",\"index.js\"]"]

theorem global_arguments_placed_versionRun :
    let left := Template.empty.run Template.versionRun
    let text := String.join (Template.versionLines.map (· ++ "\n"))
    (Template.render.apply left).1 = .ok text ∧ HasLines text left.lines ∧
      (∀ before stage after, left.stages.toList = before ++ stage :: after →
        stage.PlacedIn left.lines before.length) ∧
      ∃ first rest, left.stages.toList = first :: rest ∧
        left.preamble = first.banner :: first.globalLines ∧
        ((∀ stage ∈ left.stages.toList, ∀ line ∈ stage.globalLines, line ∈ left.preamble) ↔
          ∀ stage ∈ rest, ∀ line ∈ stage.globalLines, line ∈ first.globalLines) := by
  have reached : (Template.empty.run Template.versionRun).Reached := ⟨_, rfl⟩
  refine ⟨?rendered, global_arguments_placed reached ?rendered⟩
  case rendered => decide +kernel

/-- The version of the second stage is declared below the base image of the first one. -/
theorem versionRun_below :
    let left := Template.empty.run Template.versionRun
    left.Reached ∧
      (Template.render.apply left).1 =
        .ok (String.join (Template.versionLines.map (· ++ "\n"))) ∧
      left.lines = Template.versionLines ∧
      (∃ stage ∈ left.stages.toList, "ARG NODE_TAG=18" ∈ stage.globalLines) ∧
      "ARG NODE_TAG=18" ∉ left.preamble := by
  refine ⟨⟨_, rfl⟩, ?rendered, ?lines, ?declared, ?below⟩
  case rendered => decide +kernel
  case lines => decide +kernel
  case declared => decide +kernel
  case below => decide +kernel

end ContainerStack.Script
