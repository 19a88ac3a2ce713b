import ContainerStack.Numeral
import ContainerStack.Yaml.Source

/-!
**Reading the scalars of a YAML document.**

A scalar is plain, between quotes, or a block of indented lines. Line ends inside plain and quoted
scalars are folded: a single one becomes a space, and of several the first is dropped.

* `Gap`: the blanks and line ends between two words of a scalar.
* `readPlain?`, `readSingle?`, `readDouble?`, `readBlock?`: the text of a scalar and what follows
  it.
-/

namespace ContainerStack.Yaml

/-- The blanks of one line, or line ends, between two words of a scalar. -/
inductive Gap where
  | blanks (chars : List Char)
  /-- The first line end, which is empty where it was escaped, and those after it. -/
  | lines (first more : List Char)
  deriving DecidableEq, Repr

namespace Gap

/-- No gap. -/
def empty : Gap := blanks []

/-- A gap with one more blank; blanks after a line end do not count. -/
def addBlank (char : Char) : Gap → Gap
  | blanks chars => blanks (chars ++ [char])
  | lines first more => lines first more

/-- A gap with one more line end; blanks before it do not count. -/
def addBreak (char : Char) : Gap → Gap
  | blanks _ => lines [char] []
  | lines first more => lines first (more ++ [char])

/-- What stands for the gap in the text of the scalar. -/
def fold : Gap → List Char
  | blanks chars => chars
  | lines ['\n'] [] => [' ']
  | lines ['\n'] more => more
  | lines first more => first ++ more

/-- Whether there is a line end in the gap. -/
def hasBreak : Gap → Bool
  | blanks _ => false
  | lines _ _ => true

end Gap

/-- The text of a scalar and the source after it. -/
abbrev ScalarRead := Option (String × Source)

/-! ### Plain scalars -/

/-- The characters that end a plain scalar between brackets. -/
def isFlowMark (char : Char) : Bool := [',', '[', ']', '\x7b', '\x7d'].contains char

/-- The characters between brackets that must not follow a colon in a plain scalar. -/
def isFlowMarkOrKey (char : Char) : Bool := char == '?' || isFlowMark char

/-- Reads a plain scalar. The text read so far and the gap after it are given; `least` is the
smallest column of its further lines outside brackets. -/
def plainFrom (inFlow : Bool) (least : Nat) :
    List Char → Nat → Nat → List Char → Gap → ScalarRead
  | [], line, column, text, _ => some (String.ofList text, ⟨[], line, column⟩)
  | char :: rest, line, column, text, gap =>
    let stop := some (String.ofList text, (⟨char :: rest, line, column⟩ : Source))
    if Source.isBreak char then
      plainFrom inFlow least rest (line + 1) 0 text (gap.addBreak char)
    else if Source.isSpace char then
      if gap.hasBreak && char == '\t' && column < least then none
      else plainFrom inFlow least rest line (column + 1) text (gap.addBlank char)
    else if gap.hasBreak && !inFlow && column < least then stop
    else if gap != .empty && (char == '#' || Source.atDocumentMark (char :: rest) column) then stop
    else if char == ':' && Source.atBlank rest then stop
    else if inFlow && char == ':' && rest.head?.any isFlowMarkOrKey then none
    else if inFlow && isFlowMark char then stop
    else plainFrom inFlow least rest line (column + 1) (text ++ gap.fold ++ [char]) .empty

/-- Reads a plain scalar. -/
def readPlain? (inFlow : Bool) (least : Nat) (source : Source) : ScalarRead :=
  plainFrom inFlow least source.rest source.line source.column [] .empty

/-- Whether a plain scalar may begin here. -/
def atPlain (inFlow : Bool) : List Char → Bool
  | [] => false
  | char :: rest =>
    if Source.isSpace char || Source.isBreak char then false
    else if char == '-' then !(rest.head?.any Source.isSpace)
    else if char == '?' || char == ':' then !inFlow && !Source.atBlank rest
    else
      !([',', '[', ']', '\x7b', '\x7d', '#', '&', '*', '!', '|', '>', '\x27', '"', '%', '@',
        '\x60'].contains char)

/-! ### Quoted scalars -/

/-- Reads a single-quoted scalar after its first quote; a quote inside is written twice. -/
def singleFrom : List Char → Nat → Nat → List Char → Gap → ScalarRead
  | [], _, _, _, _ => none
  | '\x27' :: '\x27' :: rest, line, column, text, gap =>
    singleFrom rest line (column + 2) (text ++ gap.fold ++ ['\x27']) .empty
  | char :: rest, line, column, text, gap =>
    if Source.isBreak char then singleFrom rest (line + 1) 0 text (gap.addBreak char)
    else if Source.isSpace char then singleFrom rest line (column + 1) text (gap.addBlank char)
    else if Source.atDocumentMark (char :: rest) column then none
    else if char == '\x27' then
      some (String.ofList (text ++ gap.fold), ⟨rest, line, column + 1⟩)
    else singleFrom rest line (column + 1) (text ++ gap.fold ++ [char]) .empty

/-- Reads a single-quoted scalar. -/
def readSingle? (source : Source) : ScalarRead :=
  singleFrom (source.rest.drop 1) source.line (source.column + 1) [] .empty

/-- The character that an escape of one letter stands for. -/
def escapedChar? (letter : Char) : Option Char :=
  match letter with
  | '0' => some (Char.ofNat 0)
  | 'a' => some '\x07'
  | 'b' => some '\x08'
  | 't' => some '\t'
  | '\t' => some '\t'
  | 'n' => some '\n'
  | 'v' => some '\x0b'
  | 'f' => some '\x0c'
  | 'r' => some '\r'
  | 'e' => some '\x1b'
  | ' ' => some ' '
  | '"' => some '"'
  | '/' => some '/'
  | '\\' => some '\\'
  | 'N' => some (Char.ofNat 0x85)
  | '_' => some (Char.ofNat 0xA0)
  | 'L' => some (Char.ofNat 0x2028)
  | 'P' => some (Char.ofNat 0x2029)
  | _ => none

/-- The number of hexadecimal digits after the letter of an escape. -/
def escapeDigits (letter : Char) : Nat :=
  if letter == 'x' then 2 else if letter == 'u' then 4 else if letter == 'U' then 8 else 0

/-- The character whose code point hexadecimal digits write. -/
def codeChar? (digits : List Char) : Option Char :=
  if !digits.all Numeral.isHexDigit then none
  else
    let code := digits.foldl (fun value digit => 16 * value + Numeral.hexDigitValue digit) 0
    if code < 0xD800 ∨ (0xDFFF < code ∧ code ≤ 0x10FFFF) then some (Char.ofNat code) else none

/-- What a double-quoted scalar is in the middle of: nothing, an escape after its backslash, or the
digits of an escape. -/
inductive Escape where
  | outside
  | letter
  | digits (missing : Nat) (read : List Char)
  deriving DecidableEq, Repr

/-- Reads a double-quoted scalar after its first quote. A backslash at the end of a line joins it to
the next one. -/
def doubleFrom : List Char → Nat → Nat → List Char → Gap → Escape → ScalarRead
  | [], _, _, _, _, _ => none
  | char :: rest, line, column, text, gap, .digits missing read =>
    let digits := read ++ [char]
    if missing ≤ 1 then
      match codeChar? digits with
      | some code => doubleFrom rest line (column + 1) (text ++ [code]) gap .outside
      | none => none
    else doubleFrom rest line (column + 1) text gap (.digits (missing - 1) digits)
  | char :: rest, line, column, text, gap, .letter =>
    if Source.isBreak char then doubleFrom rest (line + 1) 0 text (.lines [] []) .outside
    else if 0 < escapeDigits char then
      doubleFrom rest line (column + 1) text gap (.digits (escapeDigits char) [])
    else
      match escapedChar? char with
      | some code => doubleFrom rest line (column + 1) (text ++ [code]) gap .outside
      | none => none
  | char :: rest, line, column, text, gap, .outside =>
    if Source.isBreak char then doubleFrom rest (line + 1) 0 text (gap.addBreak char) .outside
    else if Source.isSpace char then
      doubleFrom rest line (column + 1) text (gap.addBlank char) .outside
    else if Source.atDocumentMark (char :: rest) column then none
    else if char == '"' then
      some (String.ofList (text ++ gap.fold), ⟨rest, line, column + 1⟩)
    else if char == '\\' then
      doubleFrom rest line (column + 1) (text ++ gap.fold) .empty .letter
    else doubleFrom rest line (column + 1) (text ++ gap.fold ++ [char]) .empty .outside

/-- Reads a double-quoted scalar. -/
def readDouble? (source : Source) : ScalarRead :=
  doubleFrom (source.rest.drop 1) source.line (source.column + 1) [] .empty .outside

/-! ### Block scalars -/

/-- What becomes of the line ends after the last line of a block. -/
inductive Chomping where
  | strip
  | clip
  | keep
  deriving DecidableEq, Repr

/-- How a block is read: its lines as they are or folded, what becomes of its end, and the columns
by which it is indented if that is told. -/
structure BlockHeader where
  isLiteral : Bool
  chomping : Chomping
  increment : Option Nat
  deriving DecidableEq, Repr

/-- Reads the indicators after the mark of a block: a sign and a digit, each at most once. -/
def headerFrom (header : BlockHeader) (hasSign : Bool) :
    List Char → Option (BlockHeader × List Char)
  | [] => some (header, [])
  | char :: rest =>
    if (char == '+' || char == '-') && !hasSign then
      headerFrom { header with chomping := if char == '+' then .keep else .strip } true rest
    else if Numeral.isDigit char && header.increment.isNone then
      if char == '0' then none
      else headerFrom { header with increment := some (Numeral.digitValue char) } hasSign rest
    else some (header, char :: rest)

/-- The largest column of the blank lines before the first line of a block and of that line, or
nothing where a tab stands in for indentation. -/
def widestIndent? : List Char → Nat → Nat → Option Nat
  | [], column, widest => some (max column widest)
  | char :: rest, column, widest =>
    if Source.isBreak char then widestIndent? rest 0 (max column widest)
    else if char == ' ' then widestIndent? rest (column + 1) widest
    else if char == '\t' then none
    else some (max column widest)

/-- The text of a block so far, and the line ends that were not decided yet. -/
structure BlockText where
  text : List Char
  lastBreak : List Char
  blankLines : List Char
  lastWasBlank : Bool
  deriving DecidableEq, Repr

/-- The text before the line that begins with a character: line ends between two lines that do not
begin with a blank are folded, unless the block is literal. -/
def BlockText.beginLine (state : BlockText) (isLiteral : Bool) (char : Char) : BlockText :=
  let isBlank := Source.isSpace char
  let joint :=
    if !isLiteral && state.lastBreak == ['\n'] && !state.lastWasBlank && !isBlank then
      if state.blankLines.isEmpty then [' '] else []
    else state.lastBreak
  ⟨state.text ++ joint ++ state.blankLines ++ [char], [], [], isBlank⟩

/-- Reads the lines of a block that are indented by `indent` columns. -/
def blockFrom (isLiteral : Bool) (indent : Nat) :
    Bool → List Char → Nat → Nat → BlockText → Option (BlockText × Source)
  | _, [], line, column, state => some (state, ⟨[], line, column⟩)
  | inLine, char :: rest, line, column, state =>
    if Source.isBreak char then
      let next := if inLine then { state with lastBreak := [char], blankLines := [] }
        else { state with blankLines := state.blankLines ++ [char] }
      blockFrom isLiteral indent false rest (line + 1) 0 next
    else if inLine then
      blockFrom isLiteral indent true rest line (column + 1)
        { state with text := state.text ++ [char] }
    else if column < indent then
      if char == ' ' then blockFrom isLiteral indent false rest line (column + 1) state
      else if char == '\t' then none
      else some (state, ⟨char :: rest, line, column⟩)
    else blockFrom isLiteral indent true rest line (column + 1) (state.beginLine isLiteral char)

/-- The text of a block with its end. -/
def BlockText.finish (state : BlockText) (chomping : Chomping) : String :=
  String.ofList (match chomping with
    | .strip => state.text
    | .clip => state.text ++ state.lastBreak
    | .keep => state.text ++ state.lastBreak ++ state.blankLines)

/-- Reads a block; `least` is the smallest column of a node here. -/
def readBlock? (least : Nat) (source : Source) : ScalarRead := do
  let isLiteral := source.rest.head? == some '|'
  let (header, afterHeader) ← headerFrom ⟨isLiteral, .clip, none⟩ false (source.rest.drop 1)
  let afterBlanks := afterHeader.dropWhile Source.isSpace
  let afterComment := if afterBlanks.head? == some '#' then
      afterBlanks.dropWhile fun char => !Source.isBreak char
    else afterBlanks
  if !Source.atBreak afterComment then none
  else
    let body := afterComment.drop 1
    let indent ← match header.increment with
      | some increment => some (least - 1 + increment)
      | none => (widestIndent? body 0 0).map fun widest => max widest (max least 1)
    let (state, after) ←
      blockFrom isLiteral indent false body (source.line + 1) 0 ⟨[], [], [], false⟩
    return (state.finish header.chomping, after)

end ContainerStack.Yaml
