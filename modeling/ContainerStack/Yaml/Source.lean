import ContainerStack.Text.Pieces

/-!
**Positions in the text of a YAML document.**

A `Source` is the text that is left together with its line and column. Line ends are made equal
before reading, so a line ends with a line feed or with one of the two Unicode separators.

* `Source.ofText?`: the beginning of a text, which may hold only characters that YAML admits.
* `Source.skipBlank`: the next character that is neither blank nor part of a comment.
-/

namespace ContainerStack.Yaml

/-- The text that is left, and where it begins. -/
structure Source where
  rest : List Char
  line : Nat
  column : Nat
  deriving DecidableEq, Repr

namespace Source

/-- Whether a character ends a line. -/
def isBreak (char : Char) : Bool := char == '\n' || char.toNat == 0x2028 || char.toNat == 0x2029

/-- Whether a character is a space or a tab. -/
def isSpace (char : Char) : Bool := char == ' ' || char == '\t'

/-- Whether text begins with a blank or a line end, or is at its end. -/
def atBlank : List Char → Bool
  | [] => true
  | char :: _ => isSpace char || isBreak char

/-- Whether text begins with a line end, or is at its end. -/
def atBreak : List Char → Bool
  | [] => true
  | char :: _ => isBreak char

/-- Whether a document may hold a character. -/
def isAdmitted (char : Char) : Bool :=
  let code := char.toNat
  code == 0x09 || code == 0x0A || code == 0x0D || (0x20 ≤ code && code ≤ 0x7E) || code == 0x85 ||
    (0xA0 ≤ code && code ≤ 0xFFFD) || 0x10000 ≤ code

/-- The text with every carriage return, alone or before a line feed, and every `NEL` as a line
feed. -/
def withEqualBreaks : List Char → List Char
  | [] => []
  | '\r' :: '\n' :: rest => '\n' :: withEqualBreaks rest
  | char :: rest =>
    (if char == '\r' || char.toNat == 0x85 then '\n' else char) :: withEqualBreaks rest

/-- Whether text begins with a byte order mark. -/
def atByteOrderMark (chars : List Char) : Bool := chars.head?.any fun char => char.toNat == 0xFEFF

/-- The beginning of a text. A byte order mark is left out; a second one takes up a column. -/
def ofText? (text : String) : Option Source :=
  let chars := text.toList
  if !chars.all isAdmitted then none
  else
    let chars := if atByteOrderMark chars then chars.drop 1 else chars
    if atByteOrderMark chars then some ⟨withEqualBreaks (chars.drop 1), 0, 1⟩
    else some ⟨withEqualBreaks chars, 0, 0⟩

/-- The source after a number of characters of the same line. -/
def advance (source : Source) (count : Nat) : Source :=
  { source with rest := source.rest.drop count, column := source.column + count }

/-- What is left of the line. -/
def lineRest (source : Source) : List Char := source.rest.takeWhile fun char => !isBreak char

/-- The beginning of the next line. -/
def nextLine (source : Source) : Source :=
  ⟨source.rest.drop (source.lineRest.length + 1), source.line + 1, 0⟩

/-- Skips blanks, comments and line ends. Tabs are skipped only where they cannot be taken for
indentation: always between brackets, and else only before the first line end. -/
def skipFrom (inFlow : Bool) : Bool → Bool → List Char → Nat → Nat → Source
  | _, _, [], line, column => ⟨[], line, column⟩
  | tabs, inComment, char :: rest, line, column =>
    if isBreak char then skipFrom inFlow inFlow false rest (line + 1) 0
    else if inComment || char == ' ' || (char == '\t' && tabs) then
      skipFrom inFlow tabs inComment rest line (column + 1)
    else if char == '#' then skipFrom inFlow tabs true rest line (column + 1)
    else ⟨char :: rest, line, column⟩

/-- The next character that is neither blank nor part of a comment. -/
def skipBlank (source : Source) (inFlow tabs : Bool) : Source :=
  skipFrom inFlow (inFlow || tabs) false source.rest source.line source.column

/-- Whether a mark of three characters stands alone at the beginning of a line. -/
def atMark (mark : String) (text : List Char) (column : Nat) : Bool :=
  column == 0 && mark.toList.isPrefixOf text && atBlank (text.drop 3)

/-- Whether a document begins or ends here. -/
def atDocumentMark (text : List Char) (column : Nat) : Bool :=
  atMark "---" text column || atMark "..." text column

/-- Whether nothing of the document is left. -/
def atEnd (source : Source) : Bool :=
  source.rest.isEmpty || atDocumentMark source.rest source.column

/-- Whether an indicator that needs a blank after it stands here. -/
def atIndicator (source : Source) (indicator : Char) : Bool :=
  match source.rest with
  | [] => false
  | char :: rest => char == indicator && atBlank rest

end Source

end ContainerStack.Yaml
