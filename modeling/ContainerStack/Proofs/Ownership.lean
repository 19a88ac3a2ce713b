import ContainerStack.Proofs.LineEnds
import ContainerStack.Proofs.RunningAccount

/-!
**The paths that are handed over to the account of the container.**

The command that hands paths over names its owner and the paths without quotes, and a shell cuts it
at its gaps. An owner is made of names and the destination of a copy is a token, so these are words.
A working directory only has to be absolute and to stay on its line: one with a gap is cut in two.

* `Text.words`: the words of a command.
* `Stage.ownedPaths`: the working directory, or else the distinct destinations of copies.
* `Stage.filter_kind`: the steps of one kind.
* `ownership_names_paths`: the words of the command that hands paths over are the paths themselves
  exactly if there is no gap in the working directory.
-/

namespace ContainerStack

namespace Text

/-- The characters at which a command is cut. -/
def isGap (char : Char) : Bool := char == ' ' || char == '\t' || char == '\n'

/-- Whether a command would be cut somewhere in the text. -/
def hasGap (text : String) : Bool := text.toList.any isGap

/-- The words of a command: what stands between its gaps. -/
def words (command : String) : List String :=
  ((command.toList.splitOnP isGap).filter (!·.isEmpty)).map String.ofList

theorem noGap_of_noBlank {text : String} (plain : hasBlank text = false) : hasGap text = false := by
  rw [hasGap, List.any_eq_false]
  intro char there gap
  have blank : isBlank char = true := by
    simp only [isGap, Bool.or_eq_true, beq_iff_eq] at gap
    rcases gap with (rfl | rfl) | rfl <;> decide
  exact notMem_of_noBlank plain blank there

theorem noGap_of_shape {text : String} {first rest : Char → Bool}
    (shaped : hasShape first rest text = true)
    (lacks : ∀ char, isGap char = true → first char = false ∧ rest char = false) :
    hasGap text = false := by
  rw [hasGap, List.any_eq_false]
  intro char there gap
  exact notMem_of_shape shaped (lacks char gap).1 (lacks char gap).2 there

@[simp] theorem hasGap_append (first second : String) :
    hasGap (first ++ second) = (hasGap first || hasGap second) := by
  rw [hasGap, String.toList_append, List.any_append]
  rfl

/-- **A space between texts** keeps their words apart. -/
theorem words_spaced (first second : String) :
    words (first ++ " " ++ second) = words first ++ words second := by
  have chars : (first ++ " " ++ second).toList = first.toList ++ ' ' :: second.toList := by simp
  rw [words, chars, List.splitOnP_append_cons _ _ (by decide), List.filter_append, List.map_append]
  rfl

theorem words_intercalate (texts : List String) :
    words (String.intercalate " " texts) = texts.flatMap words := by
  induction texts with
  | nil => rfl
  | cons text rest ih =>
    cases rest with
    | nil => simp
    | cons next others =>
      rw [String.intercalate_cons_cons, words_spaced, ih]
      rfl

/-- What stands between separators holds none. -/
theorem not_of_mem_splitOnP {α : Type} {isEnd : α → Bool} {items piece : List α} {item : α}
    (listed : piece ∈ items.splitOnP isEnd) (there : item ∈ piece) : isEnd item = false := by
  induction items generalizing piece with
  | nil =>
    cases List.mem_singleton.mp listed
    cases there
  | cons head rest ih =>
    rw [List.splitOnP_cons_eq_if_modifyHead] at listed
    split at listed
    · rcases List.mem_cons.mp listed with rfl | later
      · cases there
      · exact ih later there
    · rename_i inner
      cases cut : rest.splitOnP isEnd with
      | nil => exact absurd cut (List.splitOnP_ne_nil isEnd rest)
      | cons first others =>
        rw [cut] at listed ih
        rcases List.mem_cons.mp listed with rfl | later
        · rcases List.mem_cons.mp there with rfl | there
          · simpa using inner
          · exact ih List.mem_cons_self there
        · exact ih (List.mem_cons_of_mem first later) there

/-- **A text is a word of its own** exactly if it is not empty and has no gap. -/
theorem words_eq_singleton {text : String} :
    words text = [text] ↔ text ≠ "" ∧ hasGap text = false := by
  constructor
  · intro alone
    have listed : text ∈ words text := alone ▸ List.mem_singleton_self text
    obtain ⟨piece, member, same⟩ := List.mem_map.mp listed
    obtain ⟨cut, full⟩ := List.mem_filter.mp member
    have chars : text.toList = piece := by rw [← same, String.toList_ofList]
    constructor
    · rintro rfl
      cases chars
      cases full
    · rw [hasGap, chars, List.any_eq_false]
      exact fun char there => by simp [not_of_mem_splitOnP cut there]
  · rintro ⟨full, free⟩
    have each : ∀ char ∈ text.toList, isGap char = false := fun char there => by
      simpa using List.any_eq_false.mp free char there
    have some : text.toList ≠ [] := fun empty => full (String.toList_eq_nil_iff.mp empty)
    rw [words, List.splitOnP_eq_singleton each]
    simp [some, String.ofList_toList]

end Text

namespace Script

namespace Account

/-- **The owner of files is a word.** -/
theorem Plain.words_owner {account : Account} (plain : account.Plain) :
    Text.words account.owner = [account.owner] := by
  have free {name : String} (valid : isAccountName name = true) : Text.hasGap name = false := by
    refine Text.noGap_of_shape valid fun char gap => ?_
    simp only [Text.isGap, Bool.or_eq_true, beq_iff_eq] at gap
    rcases gap with (rfl | rfl) | rfl <;> decide
  have full : account.name ≠ "" := fun empty => by
    have valid := plain.name
    rw [empty] at valid
    cases valid
  rw [Text.words_eq_singleton, owner]
  split
  · rename_i group given
    have mark : Text.hasGap ":" = false := by decide
    refine ⟨fun empty => full ?_, ?_⟩
    · exact (String.append_eq_empty_iff.mp (String.append_eq_empty_iff.mp empty).1).1
    · rw [Text.hasGap_append, Text.hasGap_append, free plain.name, mark,
        free (plain.group group given)]
      rfl
  · exact ⟨full, free plain.name⟩

end Account

namespace Stage

/-- The paths that are handed over: the working directory, or else the distinct destinations of
copies in the order of their first use. -/
def ownedPaths (stage : Stage) : List String :=
  match stage.workdir with
  | some path => [path]
  | none => (stage.copies.map FileCopy.destination).eraseDups

/-- The steps of one kind are those that are written for it. -/
theorem filter_kind (stage : Stage) (kind : StepKind) :
    stage.steps.filter (·.kind == kind) = stage.stepsOf kind := by
  have among (kinds : List StepKind) : (kinds.flatMap stage.stepsOf).filter (·.kind == kind) =
      (kinds.filter (· == kind)).flatMap stage.stepsOf := by
    induction kinds with
    | nil => rfl
    | cons first rest ih =>
      have own {step : Step} (member : step ∈ stage.stepsOf first) : step.kind = first :=
        kind_of_stepsOf member
      rw [List.flatMap_cons, List.filter_append, ih]
      by_cases same : first = kind
      · rw [List.filter_cons_of_pos (by simp [same]), List.flatMap_cons,
          List.filter_eq_self.mpr fun step member => by simp [own member, same]]
      · rw [List.filter_cons_of_neg (by simp [same]),
          List.filter_eq_nil_iff.mpr fun step member => by simp [own member, same]]
        rfl
  have once : StepKind.all.filter (· == kind) = [kind] := by cases kind <;> rfl
  rw [steps, among, once, List.flatMap_singleton]

/-- The command that hands paths over to an owner. -/
def chown (owner : String) (paths : List String) : String :=
  "chown -R " ++ owner ++ " " ++ String.intercalate " " paths

/-- **The words of the command** are the words of the owner and of the paths. -/
theorem words_chown (owner : String) (paths : List String) :
    Text.words (chown owner paths) =
      ["chown", "-R"] ++ Text.words owner ++ paths.flatMap Text.words := by
  have parts : chown owner paths =
      "chown" ++ " " ++ "-R" ++ " " ++ owner ++ " " ++ String.intercalate " " paths := rfl
  rw [parts, Text.words_spaced, Text.words_spaced, Text.words_spaced, Text.words_intercalate]
  rfl

/-- Destinations of copies are words, so only a working directory can be cut. -/
theorem Built.words_ownedPaths {stage : Stage} (built : stage.Built) :
    stage.ownedPaths.flatMap Text.words = stage.ownedPaths ↔
      ∀ path ∈ stage.workdir, Text.hasGap path = false := by
  rw [ownedPaths]
  cases given : stage.workdir with
  | some path =>
    have full : path ≠ "" := by
      rintro rfl
      exact absurd (built.ended.workdir "" given) (by decide)
    simp [Text.words_eq_singleton, full]
  | none =>
    refine iff_of_true ?_ nofun
    have each : ∀ path ∈ (stage.copies.map FileCopy.destination).eraseDups,
        Text.words path = [path] := by
      intro path listed
      obtain ⟨files, copied, rfl⟩ := List.mem_map.mp (List.mem_eraseDups.mp listed)
      have token := (built.copies files copied).tokens.destination
      exact Text.words_eq_singleton.mpr ⟨token.1, Text.noGap_of_noBlank token.2⟩
    exact (List.flatMap_congr each).trans (List.flatMap_singleton' _)

theorem ownedPaths_eq_nil {stage : Stage} :
    stage.ownedPaths = [] ↔ stage.workdir = none ∧ stage.copies = [] := by
  rw [ownedPaths]
  cases stage.workdir with
  | some path => simp
  | none => cases stage.copies <;> simp [List.eraseDups_cons]

/-- The steps that hand paths over: there is one if there are any paths. -/
theorem filter_ownership {stage : Stage} {account : Account}
    (given : stage.serviceUser = some account) :
    stage.steps.filter (·.kind == .ownership) =
      if stage.ownedPaths = [] then []
      else [⟨.ownership, .run [chown account.owner stage.ownedPaths]⟩] := by
  have targets : stage.ownershipTargets = stage.ownedPaths := stage.ownershipTargets_eq
  rw [filter_kind, stepsOf, written, given]
  simp only [targets, List.isEmpty_iff]
  split <;> rfl

/-- **The command that hands paths over** stands in a stage exactly if there are such paths. Cut at
its gaps, it is the call of the tool, the owner, and the words of the paths, which are the paths
themselves exactly if there is no gap in the working directory. -/
theorem ownership_names_paths {stage : Stage} (built : stage.Built) {account : Account}
    (given : stage.serviceUser = some account) {instructions : List Instruction}
    (made : stage.instructions = .ok instructions) :
    stage.steps.map Step.instruction = instructions ∧
      (stage.workdir = none ∧ stage.copies = [] →
        stage.steps.filter (·.kind == .ownership) = []) ∧
      (stage.workdir.isSome ∨ stage.copies ≠ [] → ∃ command,
        stage.steps.filter (·.kind == .ownership) = [⟨.ownership, .run [command]⟩] ∧
        Text.words command =
          ["chown", "-R", account.owner] ++ stage.ownedPaths.flatMap Text.words ∧
        (Text.words command = ["chown", "-R", account.owner] ++ stage.ownedPaths ↔
          ∀ path ∈ stage.workdir, Text.hasGap path = false)) := by
  refine ⟨steps_written made, fun none => ?_, fun some => ?_⟩
  · rw [filter_ownership given, if_pos (ownedPaths_eq_nil.mpr none)]
  · have paths : stage.ownedPaths ≠ [] := by
      rw [Ne, ownedPaths_eq_nil]
      rintro ⟨workdir, copies⟩
      simp [workdir, copies] at some
    have owner := (built.ended.serviceUser account given).words_owner
    have cut : Text.words (chown account.owner stage.ownedPaths) =
        ["chown", "-R", account.owner] ++ stage.ownedPaths.flatMap Text.words := by
      rw [words_chown, owner]
      rfl
    refine ⟨chown account.owner stage.ownedPaths, ?_, cut, ?_⟩
    · rw [filter_ownership given, if_neg paths]
    · rw [cut, List.append_cancel_left_eq, built.words_ownedPaths]

/-- Calls that give a stage two copies to one destination and one to another. -/
def copyingCalls : List { setting : Setting // setting.Admitted } :=
  [⟨.base "alpine" none, trivial⟩,
    ⟨.serviceUser ⟨"app", some "web", true, false, false⟩, groupedAccount_built⟩,
    ⟨.copy ⟨["build"], "/srv", none, none⟩, @FileCopy.Built.ofPaths ["build"] "/srv" _ rfl⟩,
    ⟨.copy ⟨["conf"], "/etc/app", none, none⟩, @FileCopy.Built.ofPaths ["conf"] "/etc/app" _ rfl⟩,
    ⟨.copy ⟨["public"], "/srv", none, none⟩, @FileCopy.Built.ofPaths ["public"] "/srv" _ rfl⟩,
    ⟨.command (.shell "start"), trivial⟩]

theorem ownership_names_paths_copyingCalls :
    ∃ stage : Stage, stage.Built ∧ stage.ownedPaths = ["/srv", "/etc/app"] ∧
      ∃ account, stage.serviceUser = some account ∧ account.owner = "app:web" ∧
      ∃ instructions, stage.instructions = .ok instructions ∧
      "RUN chown -R app:web /srv /etc/app" ∈ instructions.map Instruction.text ∧
      stage.steps.map Step.instruction = instructions ∧
      (stage.workdir = none ∧ stage.copies = [] →
        stage.steps.filter (·.kind == .ownership) = []) ∧
      (stage.workdir.isSome ∨ stage.copies ≠ [] → ∃ command,
        stage.steps.filter (·.kind == .ownership) = [⟨.ownership, .run [command]⟩] ∧
        Text.words command =
          ["chown", "-R", account.owner] ++ stage.ownedPaths.flatMap Text.words ∧
        (Text.words command = ["chown", "-R", account.owner] ++ stage.ownedPaths ↔
          ∀ path ∈ stage.workdir, Text.hasGap path = false)) := by
  have created : create "app" = .ok _ := rfl
  have built := built_sequence created copyingCalls
  exact ⟨_, built, by decide +kernel, _, rfl, by decide +kernel, _, rfl, by decide +kernel,
    ownership_names_paths built rfl rfl⟩

/-- Calls that give a stage a working directory with a space. -/
def spacedCalls : List { setting : Setting // setting.Admitted } :=
  [⟨.base "alpine" none, trivial⟩, ⟨.workdir "/srv/my app", trivial⟩,
    ⟨.serviceUser ⟨"app", none, false, false, false⟩, @Account.Built.ofName "app" _ rfl⟩,
    ⟨.command (.shell "start"), trivial⟩]

/-- **A working directory with a space is cut**: the command names two other paths. -/
theorem ownership_cuts_workdir : ∃ stage : Stage, stage.Built ∧
    stage.ownedPaths = ["/srv/my app"] ∧
    stage.steps.filter (·.kind == .ownership) =
      [⟨.ownership, .run ["chown -R app /srv/my app"]⟩] ∧
    Text.words "chown -R app /srv/my app" = ["chown", "-R", "app", "/srv/my", "app"] ∧
    ∃ instructions, stage.instructions = .ok instructions ∧
      instructions.map Instruction.text = ["FROM alpine", "WORKDIR /srv/my app",
        "RUN chown -R app /srv/my app", "USER app", "CMD start"] := by
  have created : create "app" = .ok _ := rfl
  have built := built_sequence created spacedCalls
  exact ⟨_, built, by decide +kernel, by decide +kernel, by decide +kernel, _, rfl,
    by decide +kernel⟩

end Stage

end Script

end ContainerStack
