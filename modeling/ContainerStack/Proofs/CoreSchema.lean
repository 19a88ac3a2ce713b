import ContainerStack.Validation

/-!
**What a plain scalar is taken for.**

The core schema of YAML 1.2 takes a plain scalar for nothing, a truth value, a whole number or a
number with a fraction if it has the form of one, and for a string otherwise. What stands between
quotes is a string whatever it holds.

* `Core.isInteger`, `Core.isFloat`: the forms of numbers.
* `Core.kind`: what a plain scalar is taken for.
* `Core.kind_of_letter`: a word that begins with a letter is a string unless it is reserved.
-/

namespace ContainerStack.Yaml.Core

/-- What a scalar is taken for. -/
inductive Kind where
  | nothing
  | truth
  | integer
  | float
  | string
  deriving DecidableEq, Repr

/-- The words for nothing. -/
def nothingWords : List String := ["", "~", "null", "Null", "NULL"]

/-- The words for truth values. -/
def truthWords : List String := ["true", "True", "TRUE", "false", "False", "FALSE"]

/-- The words that mean something else than themselves. -/
def reservedWords : List String := nothingWords ++ truthWords

/-- A word without its sign. -/
def unsigned : List Char → List Char
  | '+' :: rest => rest
  | '-' :: rest => rest
  | word => word

/-- Whether a word consists of digits of one kind, one at least. -/
def isRun (isDigit : Char → Bool) (word : List Char) : Bool := !word.isEmpty && word.all isDigit

/-- Whether a character is an octal digit. -/
def isOctalDigit (char : Char) : Bool := '0' ≤ char && char ≤ '7'

/-- Whether a word is a whole number: digits with a sign or none, or octal or hexadecimal digits
after their mark. -/
def isInteger (word : List Char) : Bool :=
  isRun Numeral.isDigit (unsigned word) ||
    match word with
    | '0' :: 'o' :: rest => isRun isOctalDigit rest
    | '0' :: 'x' :: rest => isRun Numeral.isHexDigit rest
    | _ => false

/-- Whether text is an exponent or nothing. -/
def isExponent : List Char → Bool
  | [] => true
  | mark :: rest => (mark == 'e' || mark == 'E') && isRun Numeral.isDigit (unsigned rest)

/-- Whether a word is digits with a point or none, a digit at least on one of its sides, and an
exponent or none. -/
def isDecimal (word : List Char) : Bool :=
  let whole := word.takeWhile Numeral.isDigit
  match word.dropWhile Numeral.isDigit with
  | '.' :: rest =>
    !(whole.isEmpty && (rest.takeWhile Numeral.isDigit).isEmpty) &&
      isExponent (rest.dropWhile Numeral.isDigit)
  | rest => !whole.isEmpty && isExponent rest

/-- The words for infinity, which may have a sign. -/
def infinityWords : List (List Char) := [".inf".toList, ".Inf".toList, ".INF".toList]

/-- The words for what is not a number. -/
def undefinedWords : List (List Char) := [".nan".toList, ".NaN".toList, ".NAN".toList]

/-- Whether a word is a number with a fraction or an exponent, or one of the words for what no
digits write. -/
def isFloat (word : List Char) : Bool :=
  isDecimal (unsigned word) || infinityWords.contains (unsigned word) ||
    undefinedWords.contains word

/-- What a plain scalar is taken for. -/
def kind (text : String) : Kind :=
  if nothingWords.contains text then .nothing
  else if truthWords.contains text then .truth
  else if isInteger text.toList then .integer
  else if isFloat text.toList then .float
  else .string

/-! ### Words that begin with a letter -/

section Letters

variable {char : Char} {rest : List Char}

theorem ne_of_isLetter (letter : isLetter char = true) {other : Char}
    (outside : isLetter other = false) : char ≠ other := by
  rintro rfl
  rw [letter] at outside
  cases outside

theorem not_isDigit_of_isLetter (letter : isLetter char = true) :
    Numeral.isDigit char = false := by
  simp only [isLetter, Bool.or_eq_true, Bool.and_eq_true, decide_eq_true_eq, Char.le_def,
    UInt32.le_iff_toNat_le] at letter
  simp only [Numeral.isDigit, Bool.and_eq_false_iff, decide_eq_false_iff_not, Char.le_def,
    UInt32.le_iff_toNat_le]
  have limits : 'a'.val.toNat = 97 ∧ 'A'.val.toNat = 65 ∧ '9'.val.toNat = 57 := by decide
  omega

theorem unsigned_of_letter (letter : isLetter char = true) :
    unsigned (char :: rest) = char :: rest := by
  unfold unsigned
  split
  · rename_i same
    cases same
    cases letter
  · rename_i same
    cases same
    cases letter
  · rfl

theorem not_isInteger_of_letter (letter : isLetter char = true) :
    isInteger (char :: rest) = false := by
  have notZero : char ≠ '0' := ne_of_isLetter letter (by decide)
  simp [isInteger, unsigned_of_letter letter, isRun, not_isDigit_of_isLetter letter, notZero]

theorem not_isFloat_of_letter (letter : isLetter char = true) :
    isFloat (char :: rest) = false := by
  have notDigit := not_isDigit_of_isLetter letter
  have notPoint : char ≠ '.' := ne_of_isLetter letter (by decide)
  have decimal : isDecimal (char :: rest) = false := by
    simp [isDecimal, notDigit, notPoint]
  rw [isFloat, unsigned_of_letter letter, decimal]
  simp [infinityWords, undefinedWords, notPoint]

end Letters

/-- **A word that begins with a letter is a string** unless it is one of those that are reserved. -/
theorem kind_of_letter {text : String} (letter : text.toList.head?.any isLetter = true)
    (free : text ∉ reservedWords) : kind text = .string := by
  rw [reservedWords, List.mem_append, not_or] at free
  cases chars : text.toList with
  | nil => simp [chars] at letter
  | cons char rest =>
    rw [chars] at letter
    have begins : isLetter char = true := letter
    simp [kind, free.1, free.2, chars, not_isInteger_of_letter begins,
      not_isFloat_of_letter begins]

example : (["8080", "0x1F", "1e3", ".5", "~", "True", "web"].map kind) =
    [.integer, .integer, .float, .float, .nothing, .truth, .string] := by decide +kernel

end ContainerStack.Yaml.Core
