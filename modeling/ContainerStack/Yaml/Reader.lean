import ContainerStack.Yaml.Directive
import ContainerStack.Yaml.Node
import ContainerStack.Yaml.ScalarText

/-!
**Reading a YAML document step by step.**

A `Reader` moves through a source. Nodes may be given names, which later aliases refer to. A name
gets a number where its node begins: the number of different names before it. A name that is given
again gets a new number, which another name may get after it; a number stands for the node that
began last under it, so a reference can mean a node of another name.

* `Reader.skipBlank`, `Reader.advance`, `Reader.scalar`: moving on.
* `Properties`: the name and the tag before a node; `Properties.begin` opens a node with them.
* `Opening`: a node that was begun; `Opening.attach` finishes it.
* `Reader.properties`, `Reader.aliased`: reading them.
-/

namespace ContainerStack.Yaml

/-- Where a reader is, what the handles of tags stand for, and what is known of named nodes: the
number of each name, the nodes begun under each number by the order in which they began, and the
finished ones. -/
structure ReaderState where
  source : Source
  handles : Handles
  numbers : List (String × Nat)
  begun : List (Nat × Nat)
  finished : List (Nat × Node)

namespace ReaderState

/-- The state before a source is read. -/
def ofSource (source : Source) : ReaderState := ⟨source, [], [], [], []⟩

/-- The node that a number stands for. -/
def target? (state : ReaderState) (number : Nat) : Option Node := do
  let place ← state.begun.lookup number
  state.finished.lookup place

/-- Gives a name to a node that begins here. -/
def beginNamed (state : ReaderState) (name : String) : ReaderState :=
  let number := state.numbers.length
  { state with
    numbers := (name, number) :: state.numbers.filter fun entry => entry.1 != name
    begun := (number, state.begun.length) :: state.begun }

end ReaderState

/-- A step of reading, which fails where the document is not well formed. -/
abbrev Reader (α : Type) := StateT ReaderState Option α

/-- The name and the tag of a node. -/
structure Properties where
  anchor : Option String
  tag : Option Tag
  deriving DecidableEq, Repr

/-- A node that was begun: its tag, and its place among the named nodes if it has a name. -/
structure Opening where
  tag : Option Tag
  place : Option Nat
  deriving DecidableEq, Repr

namespace Reader

/-- What is left to read. -/
def source : Reader Source := return (← get).source

/-- Goes on if a condition holds. -/
def require (condition : Bool) : Reader Unit := if condition then pure () else failure

/-- Goes on behind a number of characters of the same line. -/
def advance (count : Nat) : Reader Unit :=
  modify fun state => { state with source := state.source.advance count }

/-- Goes on to the beginning of the next line. -/
def nextLine : Reader Unit :=
  modify fun state => { state with source := state.source.nextLine }

/-- Goes on to the next character that is neither blank nor part of a comment. -/
def skipBlank (inFlow tabs : Bool) : Reader Unit :=
  modify fun state => { state with source := state.source.skipBlank inFlow tabs }

/-- Goes on to the next character of the same line that is not blank. -/
def skipSpaces : Reader Unit := do
  advance ((← source).rest.takeWhile Source.isSpace).length

/-- Reads a scalar. -/
def scalar (read : Source → ScalarRead) : Reader String := do
  let (text, after) ← read (← source)
  modify fun state => { state with source := after }
  return text

/-- The first character that is left. -/
def peek : Reader (Option Char) := return (← source).rest.head?

/-- Reads a name after its mark. -/
def name : Reader String := do
  let text := (← source).rest.drop 1
  let chars := text.takeWhile Tag.isNameChar
  let after := text.drop chars.length
  guard (!chars.isEmpty)
  guard (Source.atBlank after ||
    after.head?.any ['?', ':', ',', ']', '\x7d', '%', '@', '\x60'].contains)
  advance (1 + chars.length)
  return String.ofList chars

/-- Reads an alias; its name was given before. -/
def aliased : Reader Node := do
  let name ← name
  let number ← ((← get).numbers.lookup name : Option Nat)
  return .reference number

/-- A tag after its first mark, and the number of characters that it takes: in full between angle
brackets, after the handle of a group between two marks, or after the handle of a mark alone. A mark
without more is a tag too. -/
def tagOf? (handles : Handles) (text : List Char) : Option (Tag × Nat) :=
  let name := text.takeWhile Tag.isNameChar
  match text, text.drop name.length with
  | '<' :: rest, _ => do
    let chars := rest.takeWhile Tag.isFullTagChar
    guard (!chars.isEmpty && rest[chars.length]? == some '>')
    let bytes ← Tag.bytes? chars
    return (⟨bytes⟩, chars.length + 2)
  | _, '!' :: rest => do
    let chars := rest.takeWhile Tag.isTagChar
    guard (!chars.isEmpty)
    let bytes ← Tag.bytes? chars
    let start ← handles.replacement? (String.ofList ('!' :: name ++ ['!']))
    return (⟨start ++ bytes⟩, name.length + 1 + chars.length)
  | _, _ => do
    let chars := text.takeWhile Tag.isTagChar
    let bytes ← Tag.bytes? chars
    let start ← handles.replacement? "!"
    return (if bytes.isEmpty then Tag.bare else ⟨start ++ bytes⟩, chars.length)

/-- Reads a tag. -/
def tag (inFlow : Bool) : Reader Tag := do
  let text := (← source).rest.drop 1
  let (tag, taken) ← tagOf? (← get).handles text
  let after := text.drop taken
  guard (Source.atBlank after || (inFlow && after.head? == some ','))
  advance (1 + taken)
  return tag

/-- Reads up to a number of properties, none of them twice. Outside brackets they stand on one
line. -/
def properties (inFlow : Bool) : Nat → Properties → Reader Properties
  | 0, given => return given
  | more + 1, given => do
    let first ← peek
    if first == some '&' && given.anchor.isNone then
      let name ← name
      if inFlow then skipBlank true true else skipSpaces
      properties inFlow more { given with anchor := some name }
    else if first == some '!' && given.tag.isNone then
      let tag ← tag inFlow
      if inFlow then skipBlank true true else skipSpaces
      properties inFlow more { given with tag := some tag }
    else return given

end Reader

namespace Properties

/-- No properties. -/
def none : Properties := ⟨Option.none, Option.none⟩

/-- The properties of two lines together, if none is given twice. -/
def merge? (first second : Properties) : Option Properties :=
  if first.anchor.isSome && second.anchor.isSome then Option.none
  else if first.tag.isSome && second.tag.isSome then Option.none
  else some ⟨first.anchor.or second.anchor, first.tag.or second.tag⟩

/-- Begins a node. -/
def begin (properties : Properties) : Reader Opening := do
  match properties.anchor with
  | some name =>
    let place := (← get).begun.length
    modify fun state => state.beginNamed name
    return ⟨properties.tag, some place⟩
  | Option.none => return ⟨properties.tag, Option.none⟩

end Properties

namespace Opening

/-- The opening of one node whose properties stand on two lines, if none is given twice. -/
def merge? (first second : Opening) : Option Opening :=
  if first.place.isSome && second.place.isSome then none
  else if first.tag.isSome && second.tag.isSome then none
  else some ⟨first.tag.or second.tag, first.place.or second.place⟩

/-- The finished node with its properties. -/
def attach (opening : Opening) (node : Node) : Reader Node := do
  let whole := match opening.tag with
    | some tag => Node.tagged tag node
    | none => node
  if let some place := opening.place then
    modify fun state => { state with finished := (place, whole) :: state.finished }
  return whole

end Opening

namespace Properties

/-- Finishes a node that begins and ends here. -/
def attach (properties : Properties) (node : Node) : Reader Node := do
  let opening ← properties.begin
  opening.attach node

end Properties

end ContainerStack.Yaml
