import ContainerStack.Proofs.CallHistory
import ContainerStack.Proofs.ScriptLines

/-!
**The ends of instructions.**

A line of a build script that ends in a backslash, with blanks behind it or not, continues on the
next line, so an instruction that ends so swallows the one behind it. Values in quotes and lists of
words never end so, nor do names. What a stage writes as it was given does, if it was given so: no
setter looks for a backslash at the end.

* `Text.continues`: the line continues on the next one.
* `Instruction.swallows`: the last line of an instruction continues.
* `Instruction.openEnd?`: the text that an instruction ends in as it was given.
  `WellEnded.swallows_eq`: an instruction swallows the next one as this text continues.
* `Stage.Ended`: what the setters make sure of about ends; `Built.ended`.
* `Stage.openTexts`: the texts of a stage that instructions end in.
* `swallows_exactly`: which instructions of a stage swallow the next one.
-/

namespace ContainerStack

open Text (Unbroken)

/-! ### Ends of lines -/

namespace Text

theorem notMem_append {char : Char} {first second : String} :
    char ∉ (first ++ second).toList ↔ char ∉ first.toList ∧ char ∉ second.toList := by
  rw [String.toList_append, List.mem_append, not_or]

/-- The last character of a text that is neither a space nor a tab. -/
def ending? (text : String) : Option Char :=
  text.toList.reverse.find? fun char => char != ' ' && char != '\t'

/-- **The line of a script continues on the next one**: it ends in a backslash, with blanks behind
it or not. -/
def continues (line : String) : Bool := ending? line == some '\\'

/-- The text has an ending: it holds more than spaces and tabs. -/
def Inked (text : String) : Prop := (ending? text).isSome = true

instance (text : String) : Decidable (Inked text) := inferInstanceAs (Decidable (_ = true))

/-- The last line of a text. -/
def lastLine (text : String) : String := (pieces '\n' text).getLastD ""

section Endings

variable {first second text : String}

theorem ending?_append (first second : String) :
    ending? (first ++ second) = (ending? second).or (ending? first) := by
  rw [ending?, String.toList_append, List.reverse_append, List.find?_append]
  rfl

theorem mem_of_ending? {char : Char} (found : ending? text = some char) : char ∈ text.toList :=
  List.mem_reverse.mp (List.mem_of_find?_eq_some found)

/-- **A text with an ending decides** whether a line that ends in it continues. -/
theorem continues_append (inked : Inked second) :
    continues (first ++ second) = continues second := by
  obtain ⟨char, found⟩ := Option.isSome_iff_exists.mp inked
  rw [continues, continues, ending?_append, found]
  rfl

theorem not_continues_append (before : continues first = false) (free : '\\' ∉ second.toList) :
    continues (first ++ second) = false := by
  cases found : ending? second with
  | none =>
    rw [continues, ending?_append, found]
    exact before
  | some char =>
    have differs : char ≠ '\\' := fun same => free (same ▸ mem_of_ending? found)
    rw [continues, ending?_append, found]
    simpa using differs

theorem not_continues (free : '\\' ∉ text.toList) : continues text = false := by
  have line : continues ("" ++ text) = false := not_continues_append (by decide) free
  rwa [String.empty_append] at line

theorem inked_append_left (inked : Inked first) : Inked (first ++ second) := by
  rw [Inked, ending?_append, Option.isSome_or, Bool.or_eq_true]
  exact .inr inked

theorem inked_append_right (inked : Inked second) : Inked (first ++ second) := by
  rw [Inked, ending?_append, Option.isSome_or, Bool.or_eq_true]
  exact .inl inked

theorem inked_of_mem {char : Char} (there : char ∈ text.toList) (solid : isBlank char = false) :
    Inked text := by
  rw [Inked, ending?, List.find?_isSome]
  refine ⟨char, List.mem_reverse.mpr there, ?_⟩
  have notSpace : char ≠ ' ' := by rintro rfl; cases solid
  have notTab : char ≠ '\t' := by rintro rfl; cases solid
  simp [notSpace, notTab]

theorem inked_of_notBlank (solid : isBlankText text = false) : Inked text := by
  obtain ⟨char, there, notBlank⟩ := List.all_eq_false.mp solid
  exact inked_of_mem there (by simpa using notBlank)

theorem inked_of_solid {text : String} (full : text ≠ "")
    (solid : ∀ char ∈ text.toList, isBlank char = false) : Inked text := by
  obtain ⟨char, there⟩ := List.exists_mem_of_ne_nil text.toList
    (fun empty => full (String.toList_eq_nil_iff.mp empty))
  exact inked_of_mem there (solid char there)

theorem IsToken.inked {text : String} (token : IsToken text) : Inked text :=
  inked_of_solid token.1 fun char there => by
    simpa using List.any_eq_false.mp token.2 char there

/-- Texts that are joined end in the last one. -/
theorem exists_intercalate {texts : List String} (some : texts ≠ []) (separator : String) :
    ∃ before, ∃ last ∈ texts, String.intercalate separator texts = before ++ last := by
  obtain ⟨init, last, rfl⟩ := (List.eq_nil_or_concat' texts).resolve_left some
  by_cases only : init = []
  · subst only
    exact ⟨"", last, by simp, by simp⟩
  · refine ⟨String.intercalate separator init ++ separator, last, by simp, ?_⟩
    rw [String.intercalate_append_of_ne_nil only (by simp), String.intercalate_singleton]

theorem lastLine_of_unbroken (unbroken : Unbroken text) : lastLine text = text := by
  rw [lastLine, pieces_of_unbroken unbroken]
  rfl

theorem lastLine_append_break (unbroken : Unbroken second) :
    lastLine (first ++ "\n" ++ second) = second := by
  rw [lastLine, pieces_append_break, pieces_of_unbroken unbroken, List.getLastD_concat]

end Endings

end Text

namespace Validation

open Text (Inked)

variable {subject value : String} {answer : Unit}

theorem inked_of_containerPath (accepted : containerPath subject value = .ok answer) :
    Inked value :=
  Text.inked_of_mem (List.mem_of_mem_head? (head_of_containerPath accepted)) (by decide)

theorem inked_of_token (accepted : token subject value = .ok answer) : Inked value :=
  (token_eq_ok.mp accepted).inked

theorem inked_of_present {context field : String}
    (accepted : present context field value = .ok answer) : Inked value :=
  Text.inked_of_notBlank (by simpa using ensure_eq_ok.mp accepted)

end Validation

namespace Script

open Text (Inked continues lastLine)

/-! ### Ends of instructions -/

namespace Instruction

/-- **An instruction swallows the next one**: its last line continues. -/
def swallows (instruction : Instruction) : Bool := continues (lastLine instruction.text)

/-- The line of a command for a shell. -/
def shellLine? : Command → Option String
  | .shell line => some line
  | .exec _ => none

/-- The text that an instruction ends in as it was given. -/
def openEnd? : Instruction → Option String
  | .base image none => some image
  | .workdir path => some path
  | .copy files => some files.destination
  | .run [line] => some line
  | .entrypoint given => shellLine? given
  | .command given => shellLine? given
  | _ => none

/-- Names of an instruction hold no backslash, and the text that it ends in as it was given has an
ending. -/
def WellEnded : Instruction → Prop
  | .comment _ => False
  | .base image none => Inked image
  | .base _ (some name) => '\\' ∉ name.toList
  | .argument name none => '\\' ∉ name.toList
  | .workdir path => Inked path
  | .copy files => Inked files.destination
  | .run [line] => Inked line
  | .run _ => False
  | .user name group => '\\' ∉ name.toList ∧ ∀ other ∈ group, '\\' ∉ other.toList
  | .entrypoint given => ∀ line ∈ shellLine? given, Inked line
  | .command given => ∀ line ∈ shellLine? given, Inked line
  | _ => True

/-- **A word is never the end of a line that continues**: either it is quoted, or it holds no
backslash. -/
theorem continues_wordText (before value : String) :
    continues (before ++ wordText value) = false := by
  unfold wordText
  split
  · rw [← String.append_assoc, Text.continues_append (by decide)]
    decide
  · rename_i plain
    obtain ⟨full, each⟩ := plain_of_needsQuotes (Bool.not_eq_true _ ▸ plain)
    have inked : Inked value := Text.inked_of_solid full fun char there => (each char there).1
    rw [Text.continues_append inked]
    exact Text.not_continues fun slash => (each '\\' slash).2.2.2 rfl

theorem continues_array (before : String) (items : List String) :
    continues (before ++ Text.Json.array items) = false := by
  rw [Text.Json.array, ← String.append_assoc, Text.continues_append (by decide)]
  decide

theorem notMem_toString (number : Nat) : '\\' ∉ (toString number).toList := by
  intro there
  rw [Nat.toString_eq_ofList_toDigits, String.toList_ofList] at there
  have digit := Nat.isDigit_of_mem_toDigits (by decide) (by decide) there
  cases digit

theorem continues_commandText {command : Command} (before : String)
    (inked : ∀ line ∈ shellLine? command, Inked line) :
    continues (before ++ commandText command) = (shellLine? command).any continues := by
  cases command with
  | shell line => exact Text.continues_append (inked line rfl)
  | exec words => exact continues_array before words

/-- **A line of a script continues as the text does that its instruction ends in.** -/
theorem WellEnded.continues_text {instruction : Instruction} (ended : instruction.WellEnded) :
    continues instruction.text = instruction.openEnd?.any continues := by
  cases instruction with
  | comment text => cases ended
  | base image knownAs =>
    cases knownAs with
    | none => exact Text.continues_append ended
    | some name =>
      refine Text.not_continues_append ?_ ended
      rw [Text.continues_append (by decide)]
      decide
  | argument name value =>
    cases value with
    | none => exact Text.not_continues_append (by decide) ended
    | some value => exact continues_wordText _ value
  | environment key value => exact continues_wordText _ value
  | expose port protocol =>
    cases protocol with
    | tcp => exact Text.not_continues_append (by decide) (notMem_toString port)
    | udp =>
      rw [text, Text.continues_append (by decide)]
      exact (by decide : continues "/udp" = false)
  | volume paths => exact continues_array "VOLUME " paths
  | workdir path => exact Text.continues_append ended
  | copy files =>
    rw [text, copyText, ← String.append_assoc, Text.continues_append ended]
    rfl
  | run lines =>
    cases lines with
    | nil => cases ended
    | cons line others =>
      cases others with
      | nil =>
        rw [text, String.intercalate_singleton]
        exact Text.continues_append ended
      | cons next more => cases ended
  | user name group =>
    have named : continues ("USER " ++ name) = false :=
      Text.not_continues_append (by decide) ended.1
    cases group with
    | none => exact named
    | some group =>
      refine Text.not_continues_append ?_ (ended.2 group rfl)
      exact Text.not_continues_append named (by decide)
  | entrypoint given => exact continues_commandText "ENTRYPOINT " ended
  | command given => exact continues_commandText "CMD " ended

/-- **An instruction on one line swallows the next one as the text continues that it ends in.** -/
theorem WellEnded.swallows_eq {instruction : Instruction} (ended : instruction.WellEnded)
    (plain : instruction.OnOneLine) :
    instruction.swallows = instruction.openEnd?.any continues := by
  rw [swallows, Text.lastLine_of_unbroken (unbroken_text plain), ended.continues_text]

end Instruction

/-! ### What the setters make sure of -/

namespace Account

/-- The user and the group are names of accounts. -/
structure Plain (account : Account) : Prop where
  name : isAccountName account.name = true
  group : ∀ group ∈ account.group, isAccountName group = true

theorem Built.plain {account : Account} (built : account.Built) : account.Plain := by
  induction built with
  | ofName made =>
    obtain ⟨_, valid, same⟩ := Edit.bind_eq_ok.mp made
    cases same
    exact ⟨Validation.isAccountName_of_account valid, nofun⟩
  | withGroup _ made ih =>
    obtain ⟨_, valid, same⟩ := Edit.bind_eq_ok.mp made
    cases same
    refine ⟨ih.name, fun group given => ?_⟩
    cases given
    exact Validation.isAccountName_of_account valid
  | ensureGroup _ made ih =>
    obtain ⟨_, _, same⟩ := Edit.bind_eq_ok.mp made
    cases same
    exact { ih with }
  | ensureUser _ ih => exact { ih with }
  | assignGroup _ made ih =>
    obtain ⟨_, _, same⟩ := Edit.bind_eq_ok.mp made
    cases same
    exact { ih with }

theorem Plain.switch {account : Account} (plain : account.Plain) : account.switch.WellEnded :=
  ⟨Text.notMem_of_shape plain.name rfl rfl,
    fun group given => Text.notMem_of_shape (plain.group group given) rfl rfl⟩

/-- **The checks of an account never swallow an instruction**: their last line is `fi`. -/
theorem swallows_bootstrap {account : Account} {instruction : Instruction}
    (given : account.bootstrap = some instruction) :
    instruction.swallows = false ∧ instruction.openEnd? = none := by
  have several (first : String) (lines : List String) :
      (Instruction.run (first :: lines ++ ["fi"])).swallows = false ∧
        (Instruction.run (first :: lines ++ ["fi"])).openEnd? = none := by
    -- The last line break stands in front of the indented last line.
    have separator : " \\\n    " = " \\" ++ "\n" ++ "    " := rfl
    have cut : (Instruction.run (first :: lines ++ ["fi"])).text =
        "RUN " ++ String.intercalate " \\\n    " (first :: lines) ++ " \\" ++ "\n" ++
          "    fi" := by
      rw [Instruction.text, String.intercalate_append_of_ne_nil (by simp) (by simp),
        String.intercalate_singleton, separator]
      simp only [String.append_assoc]
      rfl
    constructor
    · rw [Instruction.swallows, cut, Text.lastLine_append_break (by decide)]
      decide
    · cases lines <;> rfl
  unfold bootstrap at given
  split at given
  · cases given
    exact several _ _
  · cases given

end Account

theorem FileCopy.Built.inked {files : FileCopy} (built : files.Built) :
    Inked files.destination := built.tokens.destination.inked

/-- **A predefined command** holds no backslash, and it is not blank. -/
theorem Predefined.plain_command {command : Predefined} (valid : command.validate = .ok ()) :
    '\\' ∉ command.command.toList ∧ Inked command.command := by
  cases command with
  | pinVersion manager version =>
    obtain ⟨_, _, valid⟩ := Edit.bind_eq_ok.mp valid
    have plain : '\\' ∉ version.toList :=
      Text.notMem_of_shape (Validation.ensure_eq_ok.mp valid) rfl rfl
    have joined (before after : String) (first : '\\' ∉ before.toList)
        (last : '\\' ∉ after.toList) : '\\' ∉ (before ++ version ++ after).toList :=
      Text.notMem_append.mpr ⟨Text.notMem_append.mpr ⟨first, plain⟩, last⟩
    cases manager with
    | npm =>
      exact ⟨Text.notMem_append.mpr ⟨by decide, plain⟩, Text.inked_append_left (by decide)⟩
    | yarn => exact ⟨joined _ _ (by decide) (by decide), Text.inked_append_right (by decide)⟩
    | pnpm => exact ⟨joined _ _ (by decide) (by decide), Text.inked_append_right (by decide)⟩
  | install manager production => cases manager <;> cases production <;> decide +kernel

namespace Stage

/-- **What the setters make sure of about the ends of instructions**: names are names, and no text
that an instruction ends in is blank. -/
structure Ended (stage : Stage) : Prop where
  globalArgs : ∀ entry ∈ stage.globalArgs.entries, isVariableName entry.1 = true
  base : ∀ base ∈ stage.base, Inked base.image ∧ ∀ name ∈ base.knownAs, isEntityName name = true
  buildUser : ∀ account ∈ stage.buildUser, account.Plain
  serviceUser : ∀ account ∈ stage.serviceUser, account.Plain
  args : ∀ entry ∈ stage.args.entries, isVariableName entry.1 = true
  workdir : ∀ path ∈ stage.workdir, Inked path
  copies : ∀ files ∈ stage.copies, Inked files.destination
  runs : ∀ line ∈ stage.runs, Inked line
  entrypoint : ∀ given ∈ stage.entrypoint, ∀ line ∈ Instruction.shellLine? given, Inked line
  command : ∀ given ∈ stage.command, ∀ line ∈ Instruction.shellLine? given, Inked line

theorem create_ended {name : String} {stage : Stage} (created : create name = .ok stage) :
    stage.Ended := by
  obtain ⟨_, _, same⟩ := Edit.bind_eq_ok.mp created
  cases same
  constructor
  all_goals
    intro value member
    cases member

theorem inked_of_checkCommand {subject : String} {given : Command} {answer : Unit}
    (accepted : checkCommand subject given = .ok answer) :
    ∀ line ∈ Instruction.shellLine? given, Inked line := by
  obtain ⟨_, full, _⟩ := Edit.bind_eq_ok.mp accepted
  cases given with
  | exec words => nofun
  | shell line =>
    rintro _ ⟨⟩
    exact Text.inked_of_notBlank (by simpa [Command.isEmpty] using Validation.ensure_eq_ok.mp full)

/-- **Every accepted call keeps that up.** -/
theorem Ended.change {stage : Stage} {setting : Setting} (ended : stage.Ended)
    (admitted : setting.Admitted) (checked : setting.check = .ok ()) :
    (setting.change stage).Ended := by
  cases setting with
  | isBase flag => exact { ended with }
  | globalArg name value =>
    exact { ended with globalArgs := all_insert ended.globalArgs (checkArgument_eq_ok checked).1 }
  | base image knownAs =>
    cases knownAs with
    | none => exact { ended with base := all_some ⟨Validation.inked_of_token checked, nofun⟩ }
    | some name =>
      obtain ⟨_, named, given⟩ := Edit.bind_eq_ok.mp checked
      have named : isEntityName name = true := Validation.name_eq_ok.mp named
      exact { ended with base := all_some ⟨Validation.inked_of_token given, all_some named⟩ }
  | buildUser account => exact { ended with buildUser := all_some admitted.plain }
  | serviceUser account => exact { ended with serviceUser := all_some admitted.plain }
  | arg name value =>
    exact { ended with args := all_insert ended.args (checkArgument_eq_ok checked).1 }
  | env key value => exact { ended with }
  | port number protocol =>
    simp only [Setting.change]
    split
    · exact ended
    · exact { ended with }
  | volume path =>
    simp only [Setting.change]
    split
    · exact ended
    · exact { ended with }
  | workdir path =>
    obtain ⟨_, absolute, _⟩ := Edit.bind_eq_ok.mp checked
    exact { ended with workdir := all_some (Validation.inked_of_containerPath absolute) }
  | copy files => exact { ended with copies := all_append ended.copies admitted.inked }
  | run line =>
    obtain ⟨_, full, _⟩ := Edit.bind_eq_ok.mp checked
    exact { ended with runs := all_append ended.runs (Validation.inked_of_present full) }
  | predefined given => exact { ended with }
  | entrypoint given =>
    exact { ended with entrypoint := all_some (inked_of_checkCommand checked) }
  | command given => exact { ended with command := all_some (inked_of_checkCommand checked) }

theorem Built.ended {stage : Stage} (built : stage.Built) : stage.Ended := by
  obtain ⟨_, start, created, leads⟩ := built
  refine leads.keeps Ended (fun edit call stage here => ?_) (create_ended created)
  obtain ⟨setting, admitted, rfl⟩ := call
  have answers := setting_answers setting stage
  cases verdict : setting.verdict stage.name (stage.part setting.group) with
  | error fault =>
    rw [Edit.Answers.eq_def, verdict] at answers
    rw [answers]
    exact here
  | ok _ =>
    obtain ⟨_, checked, _⟩ := Edit.bind_eq_ok.mp verdict
    rw [Edit.Answers.eq_def, verdict] at answers
    rw [answers]
    exact here.change admitted checked

/-! ### Instructions of a stage -/

/-- The texts of a stage that instructions end in as they were given. -/
def openTexts (stage : Stage) : List String :=
  (match stage.base with
    | some ⟨image, none⟩ => [image]
    | _ => []) ++
  stage.workdir.toList ++ stage.copies.map FileCopy.destination ++ stage.runs ++
  (stage.entrypoint.bind Instruction.shellLine?).toList ++
  (stage.command.bind Instruction.shellLine?).toList

/-- An instruction is well ended, and if the text that it ends in continues, so does a text of the
stage. -/
def Covers (stage : Stage) (instruction : Instruction) : Prop :=
  instruction.WellEnded ∧ (instruction.openEnd?.any continues = true →
    ∃ text ∈ stage.openTexts, continues text = true)

section Covering

variable {stage : Stage}

theorem swallows_bootstraps {instruction : Instruction}
    (member : instruction ∈ stage.bootstraps) :
    instruction.swallows = false ∧ instruction.openEnd? = none := by
  rcases List.mem_append.mp member with build | service
  · obtain ⟨_, _, made⟩ := Option.bind_eq_some_iff.mp (Option.mem_toList.mp build)
    exact Account.swallows_bootstrap made
  · obtain ⟨_, _, made⟩ := Option.bind_eq_some_iff.mp (Option.mem_toList.mp service)
    exact Account.swallows_bootstrap made

theorem covers_closed {instruction : Instruction} (ended : instruction.WellEnded)
    (closed : instruction.openEnd? = none) : stage.Covers instruction := by
  refine ⟨ended, fun swallows => ?_⟩
  rw [closed] at swallows
  cases swallows

theorem covers_open {instruction : Instruction} {text : String} (ended : instruction.WellEnded)
    (ends : instruction.openEnd? = some text) (listed : text ∈ stage.openTexts) :
    stage.Covers instruction := by
  refine ⟨ended, fun swallows => ⟨text, listed, ?_⟩⟩
  rw [ends] at swallows
  exact swallows

theorem covers_arguments {args : OrderedMap (Option String)}
    (named : ∀ entry ∈ args.entries, isVariableName entry.1 = true) :
    ∀ instruction ∈ argInstructions args, stage.Covers instruction := by
  intro instruction member
  obtain ⟨⟨name, value⟩, listed, rfl⟩ := List.mem_map.mp member
  cases value with
  | none => exact covers_closed (Text.notMem_of_shape (named _ listed) rfl rfl) rfl
  | some value => exact covers_closed trivial rfl

theorem Sound.covers_predefined (sound : stage.Sound) (phase : PredefinedPhase) :
    ∀ instruction ∈ stage.predefinedRuns phase, stage.Covers instruction := by
  intro instruction member
  obtain ⟨command, listed, rfl⟩ := List.mem_map.mp member
  obtain ⟨plain, inked⟩ :=
    Predefined.plain_command (sound.predefined command (List.mem_of_mem_filter listed))
  refine ⟨inked, fun swallows => ?_⟩
  have same : continues command.command = true := swallows
  rw [Text.not_continues plain] at same
  cases same

/-- The paths that are handed over are texts of the stage. -/
theorem Ended.targets (ended : stage.Ended) {path : String}
    (target : path ∈ stage.ownershipTargets) : path ∈ stage.openTexts ∧ Inked path := by
  rcases mem_ownershipTargets target with given | ⟨files, listed, rfl⟩
  · exact ⟨by simp [openTexts, given], ended.workdir path given⟩
  · refine ⟨?_, ended.copies files listed⟩
    simp only [openTexts, List.mem_append]
    exact .inl (.inl (.inl (.inr (List.mem_map_of_mem listed))))

/-- **What hands over paths ends in the last one of them.** -/
theorem Ended.covers_serviceUser (ended : stage.Ended) :
    ∀ instruction ∈ stage.serviceUserInstructions, stage.Covers instruction := by
  intro instruction member
  unfold Stage.serviceUserInstructions at member
  split at member
  · cases member
  · rename_i account given
    dsimp only at member
    rcases List.mem_append.mp member with ownership | switch
    · split at ownership
      · cases ownership
      rename_i several
      rcases List.mem_append.mp ownership with root | change
      · split at root
        · cases List.mem_singleton.mp root
          exact covers_closed ⟨by decide, nofun⟩ rfl
        · cases root
      · cases List.mem_singleton.mp change
        obtain ⟨before, last, target, joined⟩ := Text.exists_intercalate
          (fun none => several (List.isEmpty_iff.mpr none)) " "
        obtain ⟨listed, inked⟩ := ended.targets target
        rw [joined, ← String.append_assoc]
        refine ⟨Text.inked_append_right inked, fun swallows => ⟨last, listed, ?_⟩⟩
        exact (Text.continues_append inked).symm.trans swallows
    · cases List.mem_singleton.mp switch
      exact covers_closed (ended.serviceUser account given).switch rfl

/-- **Every instruction of a stage but the checks of accounts is covered.** -/
theorem Ended.covers (ended : stage.Ended) (sound : stage.Sound) {base : BaseImage}
    (given : stage.base = some base) {instruction : Instruction}
    (member : instruction ∈ stage.sequence base) : instruction ∈ stage.bootstraps ∨
      stage.Covers instruction := by
  simp only [Stage.sequence, Stage.middle, List.mem_append, or_assoc] at member
  rcases member with globalArg | image | checks | switch | arg | variable' | port | volume |
    workdir | copy | before | run | service | after | entrypoint | command
  · exact .inr (covers_arguments ended.globalArgs instruction globalArg)
  · cases List.mem_singleton.mp image
    obtain ⟨image, knownAs⟩ := base
    cases knownAs with
    | none => exact .inr (covers_open (ended.base _ given).1 rfl (by simp [openTexts, given]))
    | some name =>
      have plain : '\\' ∉ name.toList :=
        Text.notMem_of_shape ((ended.base _ given).2 name rfl) rfl rfl
      exact .inr (covers_closed plain rfl)
  · exact .inl checks
  · obtain ⟨account, given, rfl⟩ := Option.map_eq_some_iff.mp (Option.mem_toList.mp switch)
    exact .inr (covers_closed (ended.buildUser account given).switch rfl)
  · exact .inr (covers_arguments ended.args instruction arg)
  · obtain ⟨entry, _, rfl⟩ := List.mem_map.mp variable'
    exact .inr (covers_closed trivial rfl)
  · obtain ⟨entry, _, rfl⟩ := List.mem_map.mp port
    exact .inr (covers_closed trivial rfl)
  · split at volume
    · cases volume
    · cases List.mem_singleton.mp volume
      exact .inr (covers_closed trivial rfl)
  · obtain ⟨path, given, rfl⟩ := Option.map_eq_some_iff.mp (Option.mem_toList.mp workdir)
    exact .inr (covers_open (ended.workdir path given) rfl (by simp [openTexts, given]))
  · obtain ⟨files, listed, rfl⟩ := List.mem_map.mp copy
    refine .inr (covers_open (ended.copies files listed) rfl ?_)
    simp only [openTexts, List.mem_append]
    exact .inl (.inl (.inl (.inr (List.mem_map_of_mem listed))))
  · exact .inr (sound.covers_predefined _ instruction before)
  · obtain ⟨line, listed, rfl⟩ := List.mem_map.mp run
    exact .inr (covers_open (ended.runs line listed) rfl (by simp [openTexts, listed]))
  · exact .inr (ended.covers_serviceUser instruction service)
  · exact .inr (sound.covers_predefined _ instruction after)
  · obtain ⟨words, given, rfl⟩ := Option.map_eq_some_iff.mp (Option.mem_toList.mp entrypoint)
    cases words with
    | shell line =>
      refine .inr (covers_open (ended.entrypoint _ given) rfl ?_)
      simp [openTexts, given, Instruction.shellLine?]
    | exec words => exact .inr (covers_closed (ended.entrypoint _ given) rfl)
  · obtain ⟨words, given, rfl⟩ := Option.map_eq_some_iff.mp (Option.mem_toList.mp command)
    cases words with
    | shell line =>
      refine .inr (covers_open (ended.command _ given) rfl ?_)
      simp [openTexts, given, Instruction.shellLine?]
    | exec words => exact .inr (covers_closed (ended.command _ given) rfl)

/-- **Each of these texts is the end of an instruction.** -/
theorem exists_openEnd {base : BaseImage} (given : stage.base = some base) {text : String}
    (listed : text ∈ stage.openTexts) :
    ∃ instruction ∈ stage.sequence base, instruction.openEnd? = some text := by
  simp only [openTexts, List.mem_append, or_assoc, Option.mem_toList] at listed
  rcases listed with start | workdir | copy | run | entrypoint | command
  · obtain ⟨image, knownAs⟩ := base
    rw [given] at start
    cases knownAs with
    | some name => cases start
    | none =>
      cases List.mem_singleton.mp start
      exact ⟨.base text none, by simp [Stage.sequence], rfl⟩
  · refine ⟨.workdir text, ?_, rfl⟩
    simp [Stage.sequence, Stage.middle, Option.mem_def.mp workdir]
  · obtain ⟨files, there, rfl⟩ := List.mem_map.mp copy
    exact ⟨.copy files, by simp [Stage.sequence, Stage.middle, there], rfl⟩
  · exact ⟨.run [text], by simp [Stage.sequence, Stage.middle, run], rfl⟩
  · obtain ⟨words, given, line⟩ := Option.bind_eq_some_iff.mp entrypoint
    exact ⟨.entrypoint words, by simp [Stage.sequence, given], line⟩
  · obtain ⟨words, given, line⟩ := Option.bind_eq_some_iff.mp command
    exact ⟨.command words, by simp [Stage.sequence, given], line⟩

end Covering

/-- **An instruction swallows the next one exactly if the text that it ends in as it was given
continues**, and so no instruction of a stage does exactly if none of the texts of the stage
continues. What is quoted, what is named and the checks of accounts never do. -/
theorem swallows_exactly {stage : Stage} (built : stage.Built) {instructions : List Instruction}
    (made : stage.instructions = .ok instructions) :
    (∀ instruction ∈ instructions,
      instruction.swallows = instruction.openEnd?.any continues) ∧
    ((∀ instruction ∈ instructions, instruction.swallows = false) ↔
      ∀ text ∈ stage.openTexts, continues text = false) := by
  obtain ⟨base, given, rfl⟩ := instructions_eq_ok made
  have ended := built.ended
  have each : ∀ instruction ∈ stage.sequence base,
      instruction.swallows = instruction.openEnd?.any continues ∧
        (instruction.swallows = true → ∃ text ∈ stage.openTexts, continues text = true) := by
    intro instruction member
    by_cases checks : instruction ∈ stage.bootstraps
    · obtain ⟨kept, closed⟩ := swallows_bootstraps checks
      rw [kept, closed]
      exact ⟨rfl, nofun⟩
    · have plain := (built.sound.sequence given member).resolve_left checks
      obtain ⟨wellEnded, covered⟩ := (ended.covers built.sound given member).resolve_left checks
      have same := wellEnded.swallows_eq plain
      exact ⟨same, fun swallows => covered (same.symm.trans swallows)⟩
  refine ⟨fun instruction member => (each instruction member).1, fun none text listed => ?plain,
    fun none instruction member => ?separate⟩
  case plain =>
    obtain ⟨instruction, member, ends⟩ := exists_openEnd given listed
    have same := (each instruction member).1
    rw [none instruction member, ends] at same
    exact same.symm
  case separate =>
    rw [← Bool.not_eq_true]
    intro swallows
    obtain ⟨text, listed, continuing⟩ := (each instruction member).2 swallows
    rw [none text listed] at continuing
    cases continuing

/-- Calls with backslashes in a quoted value, in a list of words and at the end of a command line,
where a blank follows. -/
def trailingCalls : List { setting : Setting // setting.Admitted } :=
  [⟨.base "alpine" none, trivial⟩, ⟨.env "HOME" "C:\\", trivial⟩, ⟨.run "echo a \\ ", trivial⟩,
    ⟨.command (.exec ["start", "\\"]), trivial⟩]

theorem swallows_exactly_trailingCalls :
    ∃ stage : Stage, stage.Built ∧ ∃ instructions, stage.instructions = .ok instructions ∧
      stage.openTexts = ["alpine", "echo a \\ "] ∧
      instructions.map (fun instruction => (instruction.text, instruction.swallows)) =
        [("FROM alpine", false), ("ENV HOME=\"C:\\\\\"", false), ("RUN echo a \\ ", true),
          ("CMD [\"start\",\"\\\\\"]", false)] ∧
      (∀ instruction ∈ instructions,
        instruction.swallows = instruction.openEnd?.any continues) ∧
      ((∀ instruction ∈ instructions, instruction.swallows = false) ↔
        ∀ text ∈ stage.openTexts, continues text = false) := by
  have created : create "app" = .ok _ := rfl
  have built := built_sequence created trailingCalls
  exact ⟨_, built, _, rfl, by decide +kernel, by decide +kernel, swallows_exactly built rfl⟩

/-- **A command line may end in a backslash**, and then the command of the container is a part of
it. -/
theorem run_swallows_command : ∃ stage : Stage, stage.Built ∧
    (Stage.render.apply stage).1 = .ok "FROM alpine\nRUN echo a \\\nCMD start\n" ∧
    stage.instructions = .ok
      [.base "alpine" none, .run ["echo a \\"], .command (.shell "start")] ∧
    (Instruction.run ["echo a \\"]).swallows = true := by
  have created : create "app" = .ok _ := rfl
  have built := built_sequence created [⟨.base "alpine" none, trivial⟩,
    ⟨.run "echo a \\", trivial⟩, ⟨.command (.shell "start"), trivial⟩]
  exact ⟨_, built, by decide +kernel, by decide +kernel, by decide +kernel⟩

end Stage

end Script

end ContainerStack
