import ContainerStack.Fault
import ContainerStack.Numeral
import ContainerStack.Text.Blank
import ContainerStack.Text.Visible

/-!
**Checks on single values.**

Each check accepts a value or gives the fault that names the subject and the value.

* `code_of_letterOrDigit`: letters and digits as ranges of codes.
* `isDuration`: one or more parts, each a decimal number and a unit.
* `isByteSize`: a decimal number with an optional unit.
* `Validation`: the checks themselves.
-/

namespace ContainerStack

/-- Whether a character is an ASCII letter. -/
def isLetter (char : Char) : Bool := ('a' ≤ char && char ≤ 'z') || ('A' ≤ char && char ≤ 'Z')

/-- Whether a character is an ASCII letter or digit. -/
def isLetterOrDigit (char : Char) : Bool := isLetter char || Numeral.isDigit char

theorem code_of_letterOrDigit {char : Char} : isLetterOrDigit char = true ↔
    (97 ≤ char.toNat ∧ char.toNat ≤ 122 ∨ 65 ≤ char.toNat ∧ char.toNat ≤ 90) ∨
      48 ≤ char.toNat ∧ char.toNat ≤ 57 := by
  simp only [isLetterOrDigit, isLetter, Numeral.isDigit, Bool.or_eq_true, Bool.and_eq_true,
    decide_eq_true_eq, Char.le_def, UInt32.le_iff_toNat_le]
  rfl

theorem isBlank_of_letterOrDigit {char : Char} (shown : isLetterOrDigit char = true) :
    Text.isBlank char = false := by
  rw [code_of_letterOrDigit] at shown
  simp only [Text.isBlank, Bool.or_eq_false_iff, Bool.and_eq_false_iff, decide_eq_false_iff_not,
    beq_eq_false_iff_ne]
  omega

theorem isControl_of_letterOrDigit {char : Char} (shown : isLetterOrDigit char = true) :
    Text.isControl char = false := by
  rw [code_of_letterOrDigit] at shown
  simp only [Text.isControl, Bool.or_eq_false_iff, Bool.and_eq_false_iff, decide_eq_false_iff_not]
  omega

/-- Whether text is one character of a first class and then characters of a second one. -/
def hasShape (first rest : Char → Bool) (text : String) : Bool :=
  match text.toList with
  | [] => false
  | char :: others => first char && others.all rest

/-- Names of environment variables: a letter or underscore, then letters, digits, `_` and `.`. -/
def isVariableName : String → Bool :=
  hasShape (fun char => isLetter char || char == '_')
    fun char => isLetterOrDigit char || char == '_' || char == '.'

/-- Keys of labels and driver options: a letter or digit, then also `_`, `.`, `/` and `-`. -/
def isLabelKey : String → Bool :=
  hasShape isLetterOrDigit fun char =>
    isLetterOrDigit char || char == '_' || char == '.' || char == '/' || char == '-'

/-- Names of entities: a letter or digit, then also `_`, `.` and `-`. -/
def isEntityName : String → Bool :=
  hasShape isLetterOrDigit fun char =>
    isLetterOrDigit char || char == '_' || char == '.' || char == '-'

/-- Names of accounts: like names of entities, but an underscore may come first. -/
def isAccountName : String → Bool :=
  hasShape (fun char => isLetterOrDigit char || char == '_') fun char =>
    isLetterOrDigit char || char == '_' || char == '.' || char == '-'

/-- Versions: a letter or digit, then also `.`, `+` and `-`. -/
def isVersion : String → Bool :=
  hasShape isLetterOrDigit fun char =>
    isLetterOrDigit char || char == '.' || char == '+' || char == '-'

/-- Where the reader of a duration stands. -/
inductive DurationState where
  /-- Before the first digit of a part. -/
  | partStart
  | whole
  /-- After the point, before a digit. -/
  | point
  | fraction
  /-- After a letter that needs an `s` to be a unit. -/
  | halfUnit
  /-- After an `m`, which is a unit and may become `ms`. -/
  | minute
  /-- After a unit that takes no further letter. -/
  | unitEnd
  deriving DecidableEq, Repr

namespace DurationState

/-- The state after the letter of a unit that follows a number. -/
def afterNumber? (char : Char) : Option DurationState :=
  if char = 'n' ∨ char = 'u' then some halfUnit
  else if char = 'm' then some minute
  else if char = 's' ∨ char = 'h' then some unitEnd
  else none

/-- The state after one more character, or none where the text is no duration. -/
def next? (state : DurationState) (char : Char) : Option DurationState :=
  let digit := Numeral.isDigit char
  match state with
  | partStart => if digit then some whole else none
  | whole => if digit then some whole else if char = '.' then some point else afterNumber? char
  | point => if digit then some fraction else none
  | fraction => if digit then some fraction else afterNumber? char
  | halfUnit => if char = 's' then some unitEnd else none
  | minute => if digit then some whole else if char = 's' then some unitEnd else none
  | unitEnd => if digit then some whole else none

/-- Whether a duration may end here. -/
def isFinal : DurationState → Bool
  | minute => true
  | unitEnd => true
  | _ => false

/-- Whether the rest of the text completes a duration. -/
def accepts (state : DurationState) : List Char → Bool
  | [] => state.isFinal
  | char :: rest =>
    match state.next? char with
    | some next => next.accepts rest
    | none => false

end DurationState

/-- Whether text is a duration: parts of a decimal number and one of the units `ns`, `us`, `ms`,
`s`, `m` and `h`. -/
def isDuration (text : String) : Bool := DurationState.partStart.accepts text.toList

/-- Whether text is the unit of a byte size: nothing, or one of `b`, `k`, `m`, `g` and `t` in either
case, and then nothing or `b` in either case. -/
def isByteUnit : List Char → Bool
  | [] => true
  | [unit] => ['b', 'k', 'm', 'g', 't'].contains unit.toLower
  | [unit, byte] => ['b', 'k', 'm', 'g', 't'].contains unit.toLower && byte.toLower == 'b'
  | _ => false

/-- Whether text is a byte size: digits, optionally a point and digits, and a unit. -/
def isByteSize (text : String) : Bool :=
  let chars := text.toList
  let afterWhole := chars.dropWhile Numeral.isDigit
  let wholeIsThere := (chars.head?).any Numeral.isDigit
  match afterWhole with
  | '.' :: rest =>
    wholeIsThere && (rest.head?).any Numeral.isDigit && isByteUnit (rest.dropWhile Numeral.isDigit)
  | rest => wholeIsThere && isByteUnit rest

namespace Validation

/-- Accepts a value if the condition holds. -/
def ensure (condition : Bool) (fault : Fault) : Except Fault Unit :=
  if condition then .ok () else .error fault

/-- Accepts names of environment variables. -/
def variableName (key : String) : Except Fault Unit :=
  ensure (isVariableName key) (.malformed "environment" (.isNot key .variableName))

/-- Accepts keys of labels. -/
def labelKey (key : String) : Except Fault Unit :=
  ensure (isLabelKey key) (.malformed "label" (.isNot key .labelKey))

/-- Accepts keys of driver options and addresses. -/
def optionKey (subject key : String) : Except Fault Unit := do
  ensure (key != "") (.missing subject "key")
  ensure (isLabelKey key) (.malformed subject (.isNot key .optionKey))

/-- Accepts durations. -/
def duration (subject value : String) : Except Fault Unit :=
  ensure (isDuration value) (.malformed subject (.isNot value .duration))

/-- Accepts byte sizes. -/
def byteSize (subject value : String) : Except Fault Unit :=
  ensure (isByteSize value) (.malformed subject (.isNot value .byteSize))

/-- Accepts absolute paths inside a container. -/
def containerPath (subject path : String) : Except Fault Unit := do
  ensure (path != "") (.missing subject "path")
  ensure (path.toList.head? == some '/') (.malformed subject (.breaks path .absolutePath))

/-- Accepts text that is not empty and holds no blank character. -/
def token (subject value : String) : Except Fault Unit := do
  ensure (value != "") (.missing subject "value")
  ensure (!Text.hasBlank value) (.malformed subject (.breaks value .noWhitespace))

/-- Accepts text without control characters. -/
def singleLine (subject value : String) : Except Fault Unit :=
  ensure (!Text.hasControl value) (.malformed subject (.notOneLine (Text.visible value)))

/-- Accepts text that is not blank. -/
def present (context field value : String) : Except Fault Unit :=
  ensure (!Text.isBlankText value) (.missing context field)

/-- Accepts names of entities. -/
def name (kind : EntityKind) (value : String) : Except Fault Unit := do
  ensure (value != "") (.missing (kind.noun ++ " definition") "name")
  ensure (isEntityName value) (.malformed (kind.noun ++ " name") (.breaks value .entityName))

/-- Accepts names of accounts. -/
def account (subject value : String) : Except Fault Unit := do
  ensure (value != "") (.missing subject "name")
  ensure (isAccountName value) (.malformed subject (.isNot value .accountName))

/-- Reads `true` or `false`. -/
def boolean (subject value : String) : Except Fault Bool :=
  if value = "true" then .ok true
  else if value = "false" then .ok false
  else .error (.malformed subject (.notBoolean value))

end Validation

end ContainerStack
