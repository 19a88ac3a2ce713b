import ContainerStack.Proofs.InstructionLines
import Mathlib.Data.List.TakeWhile

/-!
**Reading values back from their words.**

A value of an argument or an environment variable is written as one word. A reader of words ends a
word at a blank; outside quotes a backslash takes the next character as it is, and in double quotes
it does so before a double quote or a backslash only.

* `Text.readChars`, `Text.readWord?`: a word at the start of a text, and what is left behind it.
* `readWord?_wordText`: the word of a value reads as the value, up to a blank or the end.
* `Text.readAssignment?`: a line with a name and the word of a value, or with the name alone.
* `values_read_back`: arguments and environment variables are read back from their lines.
-/

namespace ContainerStack

namespace Text

/-! ### Words -/

/-- Where a reader of words is: outside quotes or between quotes of a kind, and whether directly
behind a backslash. -/
inductive Reading where
  | plain
  | escaped
  | single
  | double
  | doubleEscaped
  deriving DecidableEq, Repr

/-- A character in front of what was read. -/
def prepend (char : Char) : Option (List Char × List Char) → Option (List Char × List Char) :=
  Option.map fun (value, rest) => (char :: value, rest)

/-- What a reader makes of a text up to the end of a word, and what is left behind it. Quotes have
to be closed, and a backslash outside quotes needs a next character. -/
def readChars : Reading → List Char → Option (List Char × List Char)
  | .plain, [] => some ([], [])
  | .plain, char :: rest =>
    if isBlank char then some ([], char :: rest)
    else if char = '"' then readChars .double rest
    else if char = '\x27' then readChars .single rest
    else if char = '\\' then readChars .escaped rest
    else prepend char (readChars .plain rest)
  | .escaped, char :: rest => prepend char (readChars .plain rest)
  | .single, char :: rest =>
    if char = '\x27' then readChars .plain rest else prepend char (readChars .single rest)
  | .double, char :: rest =>
    if char = '"' then readChars .plain rest
    else if char = '\\' then readChars .doubleEscaped rest
    else prepend char (readChars .double rest)
  | .doubleEscaped, char :: rest =>
    if char = '"' ∨ char = '\\' then prepend char (readChars .double rest)
    else prepend '\\' (prepend char (readChars .double rest))
  | _, [] => none

/-- The value of the word at the start of a text, and what is left behind it. There is no word at a
blank or at the end. -/
def readWord? (text : String) : Option (String × String) :=
  if text.toList.head?.all isBlank then none
  else (readChars .plain text.toList).map fun (value, rest) =>
    (String.ofList value, String.ofList rest)

/-- A word ends here: at a blank or at the end of the text. -/
def EndsWord (rest : List Char) : Prop := ∀ char ∈ rest.head?, isBlank char = true

/-- Characters that are neither blanks nor quotes nor backslashes are read as they are. -/
theorem readChars_append {value rest : List Char}
    (plain : ∀ char ∈ value, isBlank char = false ∧ char ≠ '"' ∧ char ≠ '\x27' ∧ char ≠ '\\')
    (ends : EndsWord rest) : readChars .plain (value ++ rest) = some (value, rest) := by
  induction value with
  | nil =>
    cases rest with
    | nil => rfl
    | cons char others => simp [readChars, show isBlank char = true from ends char rfl]
  | cons char others ih =>
    obtain ⟨solid, notDouble, notSingle, notSlash⟩ := plain char List.mem_cons_self
    have later := ih fun other member => plain other (List.mem_cons_of_mem char member)
    simp [readChars, solid, notDouble, notSingle, notSlash, later, prepend]

/-- Text with a backslash before each double quote and each backslash. -/
def escapeChars (value : List Char) : List Char :=
  value.flatMap fun char => if char = '"' ∨ char = '\\' then ['\\', char] else [char]

/-- **Between double quotes**, text with its quotes and backslashes escaped is read as it was. -/
theorem readChars_quoted (value rest : List Char) :
    readChars .double (escapeChars value ++ '"' :: rest) =
      (readChars .plain rest).map fun (more, left) => (value ++ more, left) := by
  induction value with
  | nil => simp [readChars, escapeChars]
  | cons char others ih =>
    have given : ∀ next : Option (List Char × List Char),
        prepend char (next.map fun (more, left) => (others ++ more, left)) =
          next.map fun (more, left) => (char :: others ++ more, left) := by
      intro next
      cases next <;> rfl
    rw [escapeChars, List.flatMap_cons, ← escapeChars, List.append_assoc, ← given, ← ih]
    by_cases double : char = '"'
    · subst double
      simp [readChars]
    by_cases slash : char = '\\'
    · subst slash
      simp [readChars]
    simp [readChars, double, slash]

/-! ### Assignments -/

theorem bne_of_notMem {separator : Char} {chars : List Char} (free : separator ∉ chars) :
    ∀ char ∈ chars, (char != separator) = true := by
  intro char there
  rw [bne_iff_ne]
  rintro rfl
  exact free there

theorem cutAt?_append {separator : Char} {first : String} (free : separator ∉ first.toList)
    (second : String) :
    cutAt? separator (first ++ String.singleton separator ++ second) = some (first, second) := by
  have chars : (first ++ String.singleton separator ++ second).toList =
      first.toList ++ separator :: second.toList := by simp
  have before := bne_of_notMem free
  rw [cutAt?, chars, List.dropWhile_append_of_pos before, List.dropWhile_cons_of_neg (by simp),
    List.takeWhile_append_of_pos before, List.takeWhile_cons_of_neg (by simp)]
  simp only [List.append_nil, String.ofList_toList]

theorem cutAt?_of_notMem {separator : Char} {text : String} (free : separator ∉ text.toList) :
    cutAt? separator text = none := by
  have all : text.toList.dropWhile (· != separator) = [] :=
    List.dropWhile_eq_nil_iff.mpr (bne_of_notMem free)
  simp only [cutAt?, all]

/-- What a line with a keyword assigns: a name, and a value if there is an equals sign. The value is
one word with nothing behind it. -/
def readAssignment? (keyword line : String) : Option (String × Option String) :=
  match after? (keyword ++ " ") line with
  | none => none
  | some given =>
    match cutAt? '=' given with
    | none => some (given, none)
    | some (name, written) =>
      match readWord? written with
      | some (value, "") => some (name, some value)
      | _ => none

theorem readAssignment?_name {name : String} (free : '=' ∉ name.toList) (keyword : String) :
    readAssignment? keyword (keyword ++ " " ++ name) = some (name, none) := by
  rw [readAssignment?, after?_eq_some.mpr rfl]
  simp only [cutAt?_of_notMem free]

theorem readAssignment?_word {name word value : String} (free : '=' ∉ name.toList)
    (read : readWord? word = some (value, "")) (keyword : String) :
    readAssignment? keyword (keyword ++ " " ++ name ++ "=" ++ word) = some (name, some value) := by
  have cut : cutAt? '=' (name ++ "=" ++ word) = some (name, word) := cutAt?_append free word
  have behind : after? (keyword ++ " ") (keyword ++ " " ++ name ++ "=" ++ word) =
      some (name ++ "=" ++ word) := by
    rw [after?_eq_some]
    simp only [String.append_assoc]
  rw [readAssignment?, behind]
  simp only [cut, read]

end Text

namespace Script

open Text (EndsWord escapeChars isBlank readAssignment? readChars readWord?)

namespace Instruction

theorem toList_wordText {value : String} (quoted : needsQuotes value = true) :
    (wordText value).toList = '"' :: (escapeChars value.toList ++ ['"']) := by
  simp [wordText, quoted, escapeChars]

/-- **The word of a value reads as the value**, up to a blank or the end behind it. -/
theorem readWord?_wordText (value : String) {rest : String}
    (ends : EndsWord rest.toList) : readWord? (wordText value ++ rest) = some (value, rest) := by
  cases quoted : needsQuotes value with
  | true =>
    have chars : (wordText value ++ rest).toList =
        '"' :: (escapeChars value.toList ++ '"' :: rest.toList) := by
      rw [String.toList_append, toList_wordText quoted]
      simp
    have quote : isBlank '"' = false := by decide
    have closed : readChars .plain rest.toList = some ([], rest.toList) :=
      Text.readChars_append (List.forall_mem_nil _) ends
    have opened (inner : List Char) :
        readChars .plain ('"' :: inner) = readChars .double inner := by
      simp [readChars, quote]
    rw [readWord?, chars, opened, Text.readChars_quoted, closed]
    simp [quote, String.ofList_toList]
  | false =>
    obtain ⟨full, each⟩ := plain_of_needsQuotes quoted
    have same : wordText value = value := by simp [wordText, quoted]
    obtain ⟨first, others, chars⟩ :=
      List.exists_cons_of_ne_nil fun empty => full (String.toList_eq_nil_iff.mp empty)
    have solid : isBlank first = false := (each first (chars ▸ List.mem_cons_self)).1
    rw [same, readWord?, String.toList_append, Text.readChars_append each ends,
      if_neg (by simp [chars, solid])]
    simp only [Option.map_some, String.ofList_toList]

example : readWord? (wordText "say \"hi\" \\" ++ " now") = some ("say \"hi\" \\", " now") := by
  decide +kernel

/-- **Arguments and environment variables are read back from their lines.** The value is written as
one word, which reads as the value and has nothing behind it on its line; and an argument without a
value is written as no argument with a value is. -/
theorem values_read_back {key value : String} (named : Validation.variableName key = .ok ())
    (clean : Text.hasControl value = false) :
    (∃ word, readWord? word = some (value, "") ∧
      (environment key value).lines = ["ENV " ++ key ++ "=" ++ word] ∧
      (argument key (some value)).lines = ["ARG " ++ key ++ "=" ++ word]) ∧
    (environment key value).lines.map (readAssignment? "ENV") = [some (key, some value)] ∧
    (argument key (some value)).lines.map (readAssignment? "ARG") = [some (key, some value)] ∧
    (argument key none).lines.map (readAssignment? "ARG") = [some (key, none)] ∧
    ∀ other given, (argument key none).text ≠ (argument other (some given)).text := by
  have shaped : isVariableName key = true := Validation.ensure_eq_ok.mp named
  have free : '=' ∉ key.toList := Text.notMem_of_shape shaped rfl rfl
  have unbroken : Text.Unbroken key := Stage.unbroken_variable shaped
  have kept : Text.Unbroken value := Text.unbroken_of_noControl clean
  have read : readWord? (wordText value) = some (value, "") := by
    simpa using @readWord?_wordText value "" nofun
  have env : (environment key value).lines = [(environment key value).text] :=
    lines_of_onOneLine ⟨unbroken, kept⟩
  have arg : (argument key (some value)).lines = [(argument key (some value)).text] :=
    lines_of_onOneLine ⟨unbroken, fun _ given => Option.some.inj given ▸ kept⟩
  have bare : (argument key none).lines = [(argument key none).text] :=
    lines_of_onOneLine ⟨unbroken, nofun⟩
  refine ⟨⟨wordText value, read, env, arg⟩, ?_, ?_, ?_, fun other given same => ?_⟩
  · rw [env, List.map_singleton]
    exact congrArg ([·]) (Text.readAssignment?_word free read "ENV")
  · rw [arg, List.map_singleton]
    exact congrArg ([·]) (Text.readAssignment?_word free read "ARG")
  · rw [bare, List.map_singleton]
    exact congrArg ([·]) (Text.readAssignment?_name free "ARG")
  · have sign : '=' ∈ (argument other (some given)).text.toList := by
      simp [text]
    rw [← same] at sign
    exact free (by simpa [text] using sign)

theorem values_read_back_greeting :
    let value := "say \"hi\" to 'C:\\temp' for $5 #now"
    Validation.variableName "GREETING" = .ok () ∧ Text.hasControl value = false ∧
    (environment "GREETING" value).text =
      "ENV GREETING=\"say \\\"hi\\\" to 'C:\\\\temp' for $5 #now\"" ∧
    ((∃ word, readWord? word = some (value, "") ∧
      (environment "GREETING" value).lines = ["ENV " ++ "GREETING" ++ "=" ++ word] ∧
      (argument "GREETING" (some value)).lines = ["ARG " ++ "GREETING" ++ "=" ++ word]) ∧
    (environment "GREETING" value).lines.map (readAssignment? "ENV") =
      [some ("GREETING", some value)] ∧
    (argument "GREETING" (some value)).lines.map (readAssignment? "ARG") =
      [some ("GREETING", some value)] ∧
    (argument "GREETING" none).lines.map (readAssignment? "ARG") = [some ("GREETING", none)] ∧
    ∀ other given, (argument "GREETING" none).text ≠ (argument other (some given)).text) :=
  ⟨rfl, by decide +kernel, by decide +kernel, values_read_back rfl (by decide +kernel)⟩

end Instruction

end Script

end ContainerStack
