import ContainerStack.Proofs.Stages

/-!
**Reading copies back from their lines.**

A copy is written as words with a space before each: flags for the stage and the owner, the sources
and the destination. Every part of a copy is a token, so no word holds a space and the words are
found again. But a token may look like a flag, and a first source that does is taken for one.

* `FileCopy.words`: the words of a copy. `copyText_eq`: they are all that is written of it.
* `FileCopy.isFlag`: the word looks like a flag. `ofWords?`, `readCopy?`: a line is read back.
* `Built.pieces_text`: the words of a copy are found in its line.
* `FileCopy.Clear`: the first source does not look like a flag.
* `copy_lines_read`: exactly the clear copies are read back, so their lines tell them apart.
-/

namespace ContainerStack

namespace Text

/-- **Words with a space before each** are found again, if they hold no space themselves. -/
theorem pieces_spaced {first : String} {words : List String} (free : ' ' ∉ first.toList)
    (each : ∀ word ∈ words, ' ' ∉ word.toList) :
    pieces ' ' (first ++ String.join (words.map (" " ++ ·))) = first :: words := by
  induction words generalizing first with
  | nil => simpa using pieces_of_notMem free
  | cons word rest ih =>
    have later := ih (each word List.mem_cons_self) fun other member =>
      each other (List.mem_cons_of_mem word member)
    have cut : first ++ String.join ((word :: rest).map (" " ++ ·)) =
        first ++ String.singleton ' ' ++ (word ++ String.join (rest.map (" " ++ ·))) := by
      rw [List.map_cons, String.join_cons, String.append_assoc, String.append_assoc]
      rfl
    rw [cut, pieces_append, later, pieces_of_notMem free]
    rfl

end Text

namespace Script

open Text (IsToken begins pieces after?)

namespace FileCopy

/-! ### Words -/

/-- The flags of a copy. -/
def flags (files : FileCopy) : List String :=
  (files.stage.map ("--from=" ++ ·)).toList ++ (files.owner.map ("--chown=" ++ ·)).toList

/-- The words of a copy behind its keyword. -/
def words (files : FileCopy) : List String := files.flags ++ files.sources ++ [files.destination]

/-- Whether a word looks like a flag. -/
def isFlag (word : String) : Bool := begins "--from=" word || begins "--chown=" word

/-- The copy of some words: those at the head that look like flags are flags, and the last one of the
others is the destination. -/
def ofWords? (words : List String) : Option FileCopy :=
  let given := words.takeWhile isFlag
  let paths := words.dropWhile isFlag
  paths.getLast?.map fun destination =>
    ⟨paths.dropLast, destination, given.findSome? (after? "--from="),
      given.findSome? (after? "--chown=")⟩

/-- The copy that a line reads as: behind the keyword there are words with single spaces between
them. -/
def readCopy? (line : String) : Option FileCopy :=
  match pieces ' ' line with
  | keyword :: words => if keyword = "COPY" then ofWords? words else none
  | [] => none

/-- **The words are all that is written of a copy.** -/
theorem copyText_eq (files : FileCopy) :
    Instruction.copyText files = String.join (files.words.map (" " ++ ·)) := by
  obtain ⟨sources, destination, stage, owner⟩ := files
  cases stage <;> cases owner <;>
    simp [words, flags, String.join_append, Instruction.copyText, ← String.append_assoc]

/-- **No word of a copy holds a blank**, as all its parts are tokens. -/
theorem Built.noBlank {files : FileCopy} (built : files.Built) {word : String}
    (listed : word ∈ files.words) : Text.hasBlank word = false := by
  have tokens := built.tokens
  have marked {mark value : String} (plain : Text.hasBlank mark = false) (token : IsToken value) :
      Text.hasBlank (mark ++ value) = false := by
    rw [Text.hasBlank] at plain
    rw [Text.hasBlank, String.toList_append, List.any_append, plain, Bool.false_or]
    exact token.2
  simp only [words, flags, List.mem_append, Option.mem_toList, Option.map_eq_some_iff,
    List.mem_singleton] at listed
  rcases listed with ((⟨stage, given, rfl⟩ | ⟨owner, given, rfl⟩) | source) | rfl
  · exact marked (by decide) (tokens.stage stage given)
  · exact marked (by decide) (tokens.owner owner given)
  · exact (tokens.sources word source).2
  · exact tokens.destination.2

/-- **The words of a copy are found in its line.** -/
theorem Built.pieces_text {files : FileCopy} (built : files.Built) :
    pieces ' ' (Instruction.copy files).text = "COPY" :: files.words := by
  rw [Instruction.text, copyText_eq]
  exact Text.pieces_spaced (by decide) fun word listed =>
    Text.notMem_of_noBlank (built.noBlank listed) (by decide)

/-! ### Flags and paths -/

/-- The first source does not look like a flag. -/
def Clear (files : FileCopy) : Prop := ∀ first ∈ files.sources.head?, isFlag first = false

theorem isFlag_of_flags {files : FileCopy} {word : String} (listed : word ∈ files.flags) :
    isFlag word = true := by
  simp only [flags, List.mem_append, Option.mem_toList, Option.map_eq_some_iff] at listed
  rcases listed with ⟨stage, _, rfl⟩ | ⟨owner, _, rfl⟩
  · rw [isFlag, Text.begins_append, Bool.true_or]
  · rw [isFlag, Text.begins_append, Bool.or_true]

/-- The flags of a copy tell its stage and its owner. -/
theorem findSome?_flags (files : FileCopy) :
    files.flags.findSome? (after? "--from=") = files.stage ∧
      files.flags.findSome? (after? "--chown=") = files.owner := by
  have here (mark value : String) : after? mark (mark ++ value) = some value :=
    Text.after?_eq_some.mpr rfl
  have other (value : String) : after? "--chown=" ("--from=" ++ value) = none ∧
      after? "--from=" ("--chown=" ++ value) = none := by
    simp [after?, List.isPrefixOf?]
  obtain ⟨sources, destination, stage, owner⟩ := files
  cases stage <;> cases owner <;> simp [flags, here, other]

/-- **The words of a clear copy** are its flags up to the first source. -/
theorem ofWords?_words {files : FileCopy} (full : files.sources ≠ []) (clear : files.Clear) :
    ofWords? files.words = some files := by
  obtain ⟨source, rest, sources⟩ := List.exists_cons_of_ne_nil full
  have stops : isFlag source = false := clear source (by rw [sources]; rfl)
  have parts : files.words = files.flags ++ source :: (rest ++ [files.destination]) := by
    rw [words, sources, List.append_assoc]
    rfl
  have given : files.words.takeWhile isFlag = files.flags := by
    rw [parts, List.takeWhile_append_of_pos fun _ => isFlag_of_flags,
      List.takeWhile_cons_of_neg (by simp [stops]), List.append_nil]
  have paths : files.words.dropWhile isFlag = files.sources ++ [files.destination] := by
    rw [parts, List.dropWhile_append_of_pos fun _ => isFlag_of_flags,
      List.dropWhile_cons_of_neg (by simp [stops]), sources]
    rfl
  simp [ofWords?, given, paths, findSome?_flags]

/-- A copy whose first source looks like a flag is not read back: that source is not among those that
are read. -/
theorem clear_of_ofWords? {files : FileCopy} (full : files.sources ≠ [])
    (read : ofWords? files.words = some files) : files.Clear := by
  intro first given
  by_contra flag
  obtain ⟨source, rest, sources⟩ := List.exists_cons_of_ne_nil full
  obtain rfl : source = first := by simpa [sources] using given
  have parts : files.words = (files.flags ++ [source]) ++ (rest ++ [files.destination]) := by
    simp [words, sources]
  have flags : ∀ word ∈ files.flags ++ [source], isFlag word = true := by
    intro word listed
    rcases List.mem_append.mp listed with flag | last
    · exact isFlag_of_flags flag
    · cases List.mem_singleton.mp last
      simpa using flag
  have paths : files.words.dropWhile isFlag = (rest ++ [files.destination]).dropWhile isFlag := by
    rw [parts, List.dropWhile_append_of_pos flags]
  obtain ⟨_, _, same⟩ := Option.map_eq_some_iff.mp read
  have counted : (files.words.dropWhile isFlag).dropLast.length = files.sources.length :=
    congrArg (fun copy => copy.sources.length) same
  have fewer := (List.dropWhile_sublist isFlag (l := rest ++ [files.destination])).length_le
  rw [paths, List.length_dropLast, sources, List.length_cons] at counted
  rw [List.length_append, List.length_singleton] at fewer
  omega

/-- **Copies are read back from their lines** exactly if their first source does not look like a
flag, and the lines of two such copies differ. -/
theorem copy_lines_read {files : FileCopy} (built : files.Built) :
    (readCopy? (Instruction.copy files).text = some files ↔ files.Clear) ∧
      ∀ other : FileCopy, other.Built → files.Clear → other.Clear →
        (Instruction.copy files).text = (Instruction.copy other).text → files = other := by
  have reads {copy : FileCopy} (built : copy.Built) :
      readCopy? (Instruction.copy copy).text = ofWords? copy.words := by
    rw [readCopy?, built.pieces_text]
    rfl
  have whole {copy : FileCopy} (built : copy.Built) (clear : copy.Clear) :
      readCopy? (Instruction.copy copy).text = some copy := by
    rw [reads built, ofWords?_words built.tokens.nonempty clear]
  refine ⟨⟨fun read => ?_, whole built⟩, fun other made clear plain same => ?_⟩
  · rw [reads built] at read
    exact clear_of_ofWords? built.tokens.nonempty read
  · rw [← Option.some.injEq, ← whole built clear, same, whole made plain]

/-- A copy of two sources with all that a copy can have. -/
theorem ownedCopy_built : FileCopy.Built ⟨["a", "b"], "/srv", some "deps", some "app:web"⟩ := by
  have paths : FileCopy.Built ⟨["a", "b"], "/srv", none, none⟩ :=
    @Built.ofPaths ["a", "b"] "/srv" _ rfl
  have staged : FileCopy.Built ⟨["a", "b"], "/srv", some "deps", none⟩ :=
    @Built.withStage _ _ "deps" paths rfl
  exact @Built.withOwner _ _ "app:web" staged rfl

theorem copy_lines_read_ownedCopy :
    let files : FileCopy := ⟨["a", "b"], "/srv", some "deps", some "app:web"⟩
    files.Built ∧ files.Clear ∧
      (Instruction.copy files).text = "COPY --from=deps --chown=app:web a b /srv" ∧
      (readCopy? (Instruction.copy files).text = some files ↔ files.Clear) ∧
      ∀ other : FileCopy, other.Built → files.Clear → other.Clear →
        (Instruction.copy files).text = (Instruction.copy other).text → files = other := by
  refine ⟨ownedCopy_built, ?_, by decide +kernel, copy_lines_read ownedCopy_built⟩
  rintro first ⟨⟩
  decide

/-- **A first source that looks like a flag is taken for one**: the copy reads as another one, which
has the same line. -/
theorem source_taken_for_flag :
    let files : FileCopy := ⟨["--from=deps", "a"], "/srv", none, none⟩
    let other : FileCopy := ⟨["a"], "/srv", some "deps", none⟩
    files.Built ∧ other.Built ∧ files ≠ other ∧
      (Instruction.copy files).text = "COPY --from=deps a /srv" ∧
      (Instruction.copy other).text = "COPY --from=deps a /srv" ∧
      readCopy? (Instruction.copy files).text = some other := by
  have paths : FileCopy.Built ⟨["a"], "/srv", none, none⟩ := @Built.ofPaths ["a"] "/srv" _ rfl
  exact ⟨@Built.ofPaths ["--from=deps", "a"] "/srv" _ rfl, @Built.withStage _ _ "deps" paths rfl,
    by decide, by decide +kernel, by decide +kernel, by decide +kernel⟩

end FileCopy

end Script

end ContainerStack
