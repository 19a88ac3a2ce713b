import ContainerStack.Proofs.Stages

/-!
**The lines of an instruction.**

No value breaks the line of an instruction, since the setters have checked it or because it is
quoted. Only the checks of an account are a command of several lines, and all but its first line are
indented.

* `Instruction.keyword`, `Instruction.lines`: the word that an instruction begins with, and its
  lines. `keywords_apart`: no keyword begins with another one.
* `Instruction.OnOneLine`: no value breaks the line; `lines_of_onOneLine`.
* `Instruction.pieces_joined`: the lines of a command of several lines.
* `Account.Sound.bootstrap`: the checks of an account are such a command.
-/

namespace ContainerStack.Script

open Text (Unbroken begins begins_iff pieces unbroken_append)

/-! ### Instructions -/

namespace Instruction

/-- The word that an instruction begins with. -/
def keyword : Instruction → String
  | comment _ => "#"
  | base _ _ => "FROM"
  | argument _ _ => "ARG"
  | environment _ _ => "ENV"
  | expose _ _ => "EXPOSE"
  | volume _ => "VOLUME"
  | workdir _ => "WORKDIR"
  | copy _ => "COPY"
  | run _ => "RUN"
  | user _ _ => "USER"
  | entrypoint _ => "ENTRYPOINT"
  | command _ => "CMD"

/-- Whether the instruction is none of those that a stage has at most once. -/
def isInner : Instruction → Bool
  | .comment _ | .base _ _ | .entrypoint _ | .command _ => false
  | _ => true

/-- All keywords. -/
def keywords : List String :=
  ["#", "FROM", "ARG", "ENV", "EXPOSE", "VOLUME", "WORKDIR", "COPY", "RUN", "USER", "ENTRYPOINT",
    "CMD"]

theorem keyword_mem (instruction : Instruction) : instruction.keyword ∈ keywords := by
  cases instruction <;> simp [keyword, keywords]

/-- The lines of an instruction. -/
def lines (instruction : Instruction) : List String := pieces '\n' instruction.text

theorem begins_copyText (files : FileCopy) : begins " " (copyText files) = true := by
  obtain ⟨sources, destination, stage, owner⟩ := files
  cases stage with
  | some name => simp [copyText, begins]
  | none =>
    cases owner with
    | some name => simp [copyText, begins]
    | none => cases sources <;> simp [copyText, begins]

/-- **An instruction begins with its keyword.** -/
theorem begins_text (instruction : Instruction) :
    begins (instruction.keyword ++ " ") instruction.text = true := by
  cases instruction with
  | copy files => simpa [begins, keyword, text] using begins_copyText files
  | base image knownAs => cases knownAs <;> simp [begins, keyword, text]
  | argument name value => cases value <;> simp [begins, keyword, text]
  | expose port protocol => cases protocol <;> simp [begins, keyword, text]
  | user name group => cases group <;> simp [begins, keyword, text]
  | _ => simp [begins, keyword, text]

/-- **No keyword begins with another one**, so a line begins with one of them at most. -/
theorem keywords_apart : ∀ first ∈ keywords, ∀ second ∈ keywords,
    begins (first ++ " ") (second ++ " ") = true → first = second := by
  decide

theorem keywords_notIndented : ∀ keyword ∈ keywords,
    begins (keyword ++ " ") "    " = false ∧ begins "    " (keyword ++ " ") = false := by
  decide

/-- The keywords that a stage has at most once, or never. -/
def outerKeywords : List String := ["#", "FROM", "ENTRYPOINT", "CMD"]

theorem outerKeywords_known : ∀ keyword ∈ outerKeywords, keyword ∈ keywords := by decide

theorem keyword_notMem_outer {instruction : Instruction} (inner : instruction.isInner = true) :
    instruction.keyword ∉ outerKeywords := by
  cases instruction with
  | comment text => cases inner
  | base image knownAs => cases inner
  | entrypoint command => cases inner
  | command command => cases inner
  | _ => simp [keyword, outerKeywords]

/-! ### Instructions on one line -/

/-- The instruction is written on one line: no value of it breaks the line. -/
def OnOneLine : Instruction → Prop
  | .comment text => Unbroken text
  | .base image knownAs => Unbroken image ∧ ∀ name ∈ knownAs, Unbroken name
  | .argument name value => Unbroken name ∧ ∀ text ∈ value, Unbroken text
  | .environment key value => Unbroken key ∧ Unbroken value
  | .workdir path => Unbroken path
  | .copy files => files.Sound
  | .run lines => ∃ line, lines = [line] ∧ Unbroken line
  | .user name group => Unbroken name ∧ ∀ other ∈ group, Unbroken other
  | .entrypoint given => Stage.OneLine given
  | .command given => Stage.OneLine given
  | _ => True

/-- Values without quotes are not empty and hold nothing that a reader of words looks for. -/
theorem plain_of_needsQuotes {value : String} (plain : needsQuotes value = false) :
    value ≠ "" ∧ ∀ char ∈ value.toList,
      Text.isBlank char = false ∧ char ≠ '"' ∧ char ≠ '\x27' ∧ char ≠ '\\' := by
  simp only [needsQuotes, Bool.or_eq_false_iff, beq_eq_false_iff_ne, List.any_eq_false,
    Bool.or_eq_true, beq_iff_eq, not_or, Bool.not_eq_true] at plain
  obtain ⟨full, each⟩ := plain
  refine ⟨full, fun char there => ?_⟩
  obtain ⟨⟨⟨⟨⟨solid, notDouble⟩, notSingle⟩, notSlash⟩, -⟩, -⟩ := each char there
  exact ⟨solid, notDouble, notSingle, notSlash⟩

theorem unbroken_wordText {value : String} (unbroken : Unbroken value) :
    Unbroken (wordText value) := by
  unfold wordText
  split
  · rw [unbroken_append, unbroken_append]
    refine ⟨⟨by decide, ?_⟩, by decide⟩
    intro broken
    rw [String.toList_ofList, List.mem_flatMap] at broken
    obtain ⟨char, member, broken⟩ := broken
    split at broken
    · rcases List.mem_cons.mp broken with same | same
      · cases same
      · exact unbroken (List.mem_singleton.mp same ▸ member)
    · exact unbroken (List.mem_singleton.mp broken ▸ member)
  · exact unbroken

theorem unbroken_copyText {files : FileCopy} (sound : files.Sound) :
    Unbroken (copyText files) := by
  have sources : Unbroken (String.join (files.sources.map (" " ++ ·))) := by
    refine Text.unbroken_join fun text member => ?_
    obtain ⟨source, listed, rfl⟩ := List.mem_map.mp member
    exact unbroken_append.mpr ⟨by decide, sound.sources source listed⟩
  simp only [copyText, unbroken_append]
  refine ⟨⟨⟨⟨?stage, ?owner⟩, sources⟩, by decide⟩, sound.destination⟩
  case stage =>
    cases given : files.stage with
    | none => decide
    | some name => exact unbroken_append.mpr ⟨by decide, sound.stage name given⟩
  case owner =>
    cases given : files.owner with
    | none => decide
    | some name => exact unbroken_append.mpr ⟨by decide, sound.owner name given⟩

theorem unbroken_commandText {command : Command} (plain : Stage.OneLine command) :
    Unbroken (commandText command) := by
  cases command with
  | shell line => exact plain
  | exec words => exact Text.Json.unbroken_array words

theorem unbroken_text {instruction : Instruction} (plain : instruction.OnOneLine) :
    Unbroken instruction.text := by
  cases instruction with
  | comment text => exact unbroken_append.mpr ⟨by decide, plain⟩
  | base image knownAs =>
    cases knownAs with
    | none => exact unbroken_append.mpr ⟨by decide, plain.1⟩
    | some name =>
      simp only [text, unbroken_append]
      exact ⟨⟨⟨by decide, plain.1⟩, by decide⟩, plain.2 name rfl⟩
  | argument name value =>
    cases value with
    | none => exact unbroken_append.mpr ⟨by decide, plain.1⟩
    | some value =>
      simp only [text, unbroken_append]
      exact ⟨⟨⟨by decide, plain.1⟩, by decide⟩, unbroken_wordText (plain.2 value rfl)⟩
  | environment key value =>
    simp only [text, unbroken_append]
    exact ⟨⟨⟨by decide, plain.1⟩, by decide⟩, unbroken_wordText plain.2⟩
  | expose port protocol =>
    have number := Text.unbroken_toString port
    cases protocol with
    | tcp => exact unbroken_append.mpr ⟨by decide, number⟩
    | udp => exact unbroken_append.mpr ⟨unbroken_append.mpr ⟨by decide, number⟩, by decide⟩
  | volume paths => exact unbroken_append.mpr ⟨by decide, Text.Json.unbroken_array paths⟩
  | workdir path => exact unbroken_append.mpr ⟨by decide, plain⟩
  | copy files => exact unbroken_append.mpr ⟨by decide, unbroken_copyText plain⟩
  | run lines =>
    obtain ⟨line, rfl, unbroken⟩ := plain
    rw [text, String.intercalate_singleton]
    exact unbroken_append.mpr ⟨by decide, unbroken⟩
  | user name group =>
    cases group with
    | none => exact unbroken_append.mpr ⟨by decide, plain.1⟩
    | some group =>
      simp only [text, unbroken_append]
      exact ⟨⟨⟨by decide, plain.1⟩, by decide⟩, plain.2 group rfl⟩
  | entrypoint command => exact unbroken_append.mpr ⟨by decide, unbroken_commandText plain⟩
  | command command => exact unbroken_append.mpr ⟨by decide, unbroken_commandText plain⟩

theorem lines_of_onOneLine {instruction : Instruction} (plain : instruction.OnOneLine) :
    instruction.lines = [instruction.text] := Text.pieces_of_unbroken (unbroken_text plain)

/-! ### Commands of several lines -/

/-- Lines that are joined by a backslash and an indented line break: the first one begins as it did,
and the others are indented. -/
theorem pieces_joined {lead first : String} {rest : List String} (plain : Unbroken lead)
    (each : ∀ line ∈ first :: rest, Unbroken line) :
    ∃ head others,
      pieces '\n' (lead ++ String.intercalate " \\\n    " (first :: rest)) = head :: others ∧
        begins lead head = true ∧ others.length = rest.length ∧
        ∀ line ∈ others, begins "    " line = true := by
  -- Behind the first line break the rest is joined in the same way, with the indentation as lead.
  induction rest generalizing lead first with
  | nil =>
    have unbroken := unbroken_append.mpr ⟨plain, each first List.mem_cons_self⟩
    refine ⟨lead ++ first, [], ?_, Text.begins_append lead first, rfl, nofun⟩
    rw [String.intercalate_singleton, Text.pieces_of_unbroken unbroken]
  | cons next more ih =>
    obtain ⟨head, others, same, indented, length, all⟩ := @ih "    " next (by decide)
      fun line member => each line (List.mem_cons_of_mem first member)
    have unbroken : Unbroken (lead ++ first ++ " \\") := unbroken_append.mpr
      ⟨unbroken_append.mpr ⟨plain, each first List.mem_cons_self⟩, by decide⟩
    have cut : lead ++ String.intercalate " \\\n    " (first :: next :: more) =
        lead ++ first ++ " \\" ++ "\n" ++
          ("    " ++ String.intercalate " \\\n    " (next :: more)) := by
      rw [String.intercalate_cons_cons]
      have separator : " \\\n    " = " \\" ++ "\n" ++ "    " := rfl
      rw [separator]
      simp only [String.append_assoc]
    refine ⟨lead ++ first ++ " \\", head :: others, ?_, ?_, congrArg (· + 1) length, ?_⟩
    · rw [cut, Text.pieces_append_break, same, Text.pieces_of_unbroken unbroken]
      rfl
    · exact Text.begins_of_append (Text.begins_append lead first) _
    · exact List.forall_mem_cons.mpr ⟨indented, all⟩

end Instruction

/-! ### Checks of accounts -/

namespace Account

/-- No command of the tools breaks a line if the names in it do not. -/
structure Tools.Sound (tools : Tools) : Prop where
  createGroup : ∀ group, Unbroken group → Unbroken (tools.createGroup group)
  createUser : ∀ user group, Unbroken user → (∀ other ∈ group, Unbroken other) →
    Unbroken (tools.createUser user group)
  assign : ∀ user group, Unbroken user → Unbroken group → Unbroken (tools.assign user group)

theorem alpineTools_sound : alpineTools.Sound where
  createGroup group plain := unbroken_append.mpr ⟨by decide, plain⟩
  createUser user group plain grouped := by
    cases group with
    | none => exact unbroken_append.mpr ⟨by decide, plain⟩
    | some group =>
      simp only [alpineTools, unbroken_append]
      exact ⟨⟨⟨by decide, grouped group rfl⟩, by decide⟩, plain⟩
  assign user group plain grouped := by
    simp only [alpineTools, unbroken_append]
    exact ⟨⟨⟨by decide, plain⟩, by decide⟩, grouped⟩

theorem shadowTools_sound : shadowTools.Sound where
  createGroup group plain := unbroken_append.mpr ⟨by decide, plain⟩
  createUser user group plain grouped := by
    cases group with
    | none => exact unbroken_append.mpr ⟨by decide, plain⟩
    | some group =>
      simp only [shadowTools, unbroken_append]
      exact ⟨⟨⟨by decide, grouped group rfl⟩, by decide⟩, plain⟩
  assign user group plain grouped := by
    simp only [shadowTools, unbroken_append]
    exact ⟨⟨⟨by decide, grouped⟩, by decide⟩, plain⟩

theorem Sound.steps {account : Account} (sound : account.Sound) {tools : Tools}
    (plain : tools.Sound) : ∀ step ∈ account.steps tools, Unbroken step := by
  intro step member
  unfold Account.steps at member
  rcases List.mem_append.mp member with member | assigned
  · rcases List.mem_append.mp member with created | added
    · split at created
      · rename_i group _ given
        cases List.mem_singleton.mp created
        have named := sound.group group given
        simp only [groupExists, unbroken_append]
        exact ⟨⟨⟨⟨by decide, ⟨by decide, named⟩, by decide⟩, by decide⟩,
          plain.createGroup group named⟩, by decide⟩
      · cases created
    · split at added
      · cases List.mem_singleton.mp added
        simp only [userExists, unbroken_append]
        exact ⟨⟨⟨⟨by decide, ⟨by decide, sound.name⟩, by decide⟩, by decide⟩,
          plain.createUser _ _ sound.name sound.group⟩, by decide⟩
      · cases added
  · split at assigned
    · rename_i group _ given
      cases List.mem_singleton.mp assigned
      exact plain.assign _ _ sound.name (sound.group group given)
    · cases assigned

theorem unbroken_branchLines {steps : List String} (each : ∀ step ∈ steps, Unbroken step) :
    ∀ line ∈ branchLines steps, Unbroken line := by
  induction steps with
  | nil => nofun
  | cons step rest ih =>
    have here := each step List.mem_cons_self
    have ended (ending : String) (plain : Unbroken ending) : Unbroken ("  " ++ step ++ ending) :=
      unbroken_append.mpr ⟨unbroken_append.mpr ⟨by decide, here⟩, plain⟩
    cases rest with
    | nil => exact List.forall_mem_singleton.mpr (ended ";" (by decide))
    | cons next more =>
      have later := ih fun other member => each other (List.mem_cons_of_mem step member)
      exact List.forall_mem_cons.mpr ⟨ended " &&" (by decide), later⟩

/-- **The checks of an account are a command of several lines**, none of which breaks. -/
theorem Sound.bootstrap {account : Account} (sound : account.Sound) {instruction : Instruction}
    (given : account.bootstrap = some instruction) : ∃ first rest,
      instruction = .run (first :: rest) ∧ rest ≠ [] ∧ ∀ line ∈ first :: rest, Unbroken line := by
  unfold Account.bootstrap at given
  split at given
  · cases given
    refine ⟨_, _, rfl, by simp, ?_⟩
    have alpine := unbroken_branchLines (sound.steps alpineTools_sound)
    have shadow := unbroken_branchLines (sound.steps shadowTools_sound)
    have word (line : String) (plain : Unbroken line) : ∀ other ∈ [line], Unbroken other :=
      List.forall_mem_singleton.mpr plain
    refine List.forall_mem_cons.mpr ⟨by decide, ?_⟩
    exact List.forall_mem_append.mpr ⟨List.forall_mem_append.mpr ⟨List.forall_mem_append.mpr
      ⟨alpine, word "else" (by decide)⟩, shadow⟩, word "fi" (by decide)⟩
  · cases given

end Account

end ContainerStack.Script
