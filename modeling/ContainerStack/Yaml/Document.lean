import ContainerStack.Yaml.Reader

/-!
**The tree of a YAML document.**

A node is a scalar, an alias, a collection between brackets, or a collection of lines that begin in
one column. A node of lines belongs to the nearest line above that begins further left. The
recursion is bounded by a number of steps that the length of the text never uses up.

* `flowNode`, `flowEntries`: nodes between brackets.
* `blockValue`, `blockNode`, `sequenceItems`, `mappingEntries`: nodes of lines.
* `Data.ofYaml?`: the tree of a text with one document.
-/

namespace ContainerStack.Yaml

/-- Whether what was read from `start` to `after` is a key: it is on one line of moderate length,
and the mark of its value follows on that line. -/
def isKey (start after colon : Source) : Bool :=
  after.line == start.line && colon.line == start.line && colon.atIndicator ':' &&
    colon.column - start.column ≤ 1024

/-- Whether properties stand here before nothing. -/
def isBeforeNothing (inFlow : Bool) (source : Source) : Bool :=
  source.atIndicator ':' ||
    (inFlow && source.rest.head?.any [',', ']', '\x7d', ':'].contains)

/-- The item of a sequence between brackets: a node, or a mapping of one entry. -/
def flowItem : Node × Option Node → Node
  | (item, none) => item
  | (key, some value) => .mapping [(key, value)]

/-- Whether a scalar of lines begins here. -/
def atBlockScalar (source : Source) : Bool := source.rest.head?.any ['|', '>'].contains

mutual

/-- Reads a node that is no collection of lines: an alias, a scalar, or a collection between
brackets. `least` is the smallest column of the further lines of a scalar. -/
def nodeContent : Nat → Bool → Nat → Properties → Reader Node
  | 0, _, _, _ => failure
  | fuel + 1, inFlow, least, properties => do
    let start ← Reader.source
    match start.rest.head? with
    | some '*' =>
      Reader.require (properties == .none)
      Reader.aliased
    | some '"' => return .text (← Reader.scalar readDouble?)
    | some '\x27' => return .text (← Reader.scalar readSingle?)
    | some '[' =>
      Reader.advance 1
      return .sequence ((← flowEntries fuel least ']').map flowItem)
    | some '\x7b' =>
      Reader.advance 1
      return .mapping ((← flowEntries fuel least '\x7d').map fun (key, value) =>
        (key, value.getD .empty))
    | _ =>
      if properties != .none && isBeforeNothing inFlow start then return .empty
      Reader.require (atPlain inFlow start.rest && !start.atIndicator '-')
      return .plain (← Reader.scalar (readPlain? inFlow least))

/-- Reads a node between brackets. -/
def flowNode : Nat → Nat → Reader Node
  | 0, _ => failure
  | fuel + 1, least => do
    let properties ← Reader.properties true 2 .none
    Reader.require (!(← Reader.source).atEnd)
    let opening ← properties.begin
    let content ← nodeContent fuel true least properties
    opening.attach content

/-- Reads a node between brackets that is not written if one of some characters comes first. -/
def flowPart : Nat → Nat → List Char → Reader Node
  | 0, _, _ => failure
  | fuel + 1, least, ends => do
    Reader.skipBlank true true
    if (← Reader.peek).any ends.contains then return .empty else flowNode fuel least

/-- Reads an entry between brackets: a key, and its value if there is one. In a sequence a marked
key that is left out takes the colon or comma after it along, and has no value. -/
def flowEntry : Nat → Nat → Char → Reader (Node × Option Node)
  | 0, _, _ => failure
  | fuel + 1, least, closing => do
    let start ← Reader.source
    if start.rest.head? == some '?' then
      Reader.advance 1
      Reader.skipBlank true true
      if closing == ']' && (← Reader.peek).any [':', ',', ']'].contains then
        Reader.require ((← Reader.peek) != some ']')
        Reader.advance 1
        Reader.skipBlank true true
        Reader.require ((← Reader.peek).any [',', ']'].contains)
        return (.empty, some .empty)
      let key ← flowPart fuel least [':', ',', closing]
      Reader.skipBlank true true
      if (← Reader.peek) == some ':' then
        Reader.advance 1
        return (key, some (← flowPart fuel least [',', closing]))
      else return (key, some .empty)
    else
      let key ← flowNode fuel least
      Reader.skipBlank true true
      let next ← Reader.source
      if next.rest.head? == some ':' then
        Reader.require (next.line == start.line && next.column - start.column ≤ 1024)
        Reader.advance 1
        return (key, some (← flowPart fuel least [',', closing]))
      else return (key, none)

/-- Reads the entries up to the closing bracket; a comma may follow the last one. -/
def flowEntries : Nat → Nat → Char → Reader (List (Node × Option Node))
  | 0, _, _ => failure
  | fuel + 1, least, closing => do
    Reader.skipBlank true true
    Reader.require (!(← Reader.source).atEnd)
    if (← Reader.peek) == some closing then
      Reader.advance 1
      return []
    let entry ← flowEntry fuel least closing
    Reader.skipBlank true true
    Reader.require (!(← Reader.source).atEnd)
    let next ← Reader.peek
    Reader.require (next == some ',' || next == some closing)
    Reader.advance 1
    if next == some ',' then return entry :: (← flowEntries fuel least closing)
    else return [entry]

/-- Reads the node after an indicator, which begins at column `least` or further right. After a key
a sequence may begin in the column of the key, and a scalar of lines always may begin one column
before `least`. `startsLine` tells whether a collection of lines may begin on the same line; `outer`
are properties that were read on a line before. -/
def blockValue : Nat → Nat → Bool → Bool → Properties → Reader Node
  | 0, _, _, _, _ => failure
  | fuel + 1, least, afterKey, startsLine, outer => do
    let start ← Reader.source
    Reader.skipBlank false (!startsLine)
    let next ← Reader.source
    let startsLine := startsLine || next.line != start.line
    if next.atEnd then outer.attach .empty
    else if least ≤ next.column || (next.column + 1 == least && atBlockScalar next) then
      blockNode fuel least afterKey startsLine outer
    else if afterKey && startsLine && next.column + 1 == least && next.atIndicator '-' then
      let opening ← outer.begin
      let items ← sequenceItems fuel next.column true
      opening.attach (.sequence items)
    else outer.attach .empty

/-- Reads a node that begins here. -/
def blockNode : Nat → Nat → Bool → Bool → Properties → Reader Node
  | 0, _, _, _, _ => failure
  | fuel + 1, least, afterKey, startsLine, outer => do
    let start ← Reader.source
    if start.atIndicator '-' then
      Reader.require startsLine
      let opening ← outer.begin
      let items ← sequenceItems fuel start.column false
      opening.attach (.sequence items)
    else if start.atIndicator '?' then
      Reader.require startsLine
      let opening ← outer.begin
      let entries ← mappingEntries fuel start.column
      opening.attach (.mapping entries)
    else
      let inner ← Reader.properties false 2 .none
      if inner != .none then Reader.skipBlank false true
      let content ← Reader.source
      if inner != .none && (content.atEnd || content.line != start.line) then
        let both ← outer.merge? inner
        blockValue fuel least afterKey true both
      else if atBlockScalar content then
        let both ← outer.merge? inner
        let isLiteral := content.rest.head? == some '|'
        let text ← Reader.scalar (readBlock? least)
        both.attach (if isLiteral then .literal text else .text text)
      else
        let opening ← outer.begin
        let opened ← inner.begin
        let node ← nodeContent fuel false least inner
        let after ← Reader.source
        Reader.skipBlank false true
        let colon ← Reader.source
        if colon.line == after.line && colon.atIndicator ':' && least ≤ colon.column then
          Reader.require (startsLine && isKey start after colon)
          let key ← opened.attach node
          let entries ← mappingFrom fuel start.column key false
          opening.attach (.mapping entries)
        else
          let both ← opening.merge? opened
          Reader.require (outer = .none || content.rest.head? != some '*')
          both.attach node

/-- Reads the items of a sequence whose indicators stand in a column. A sequence that shares the
column of a key ends where another key begins. -/
def sequenceItems : Nat → Nat → Bool → Reader (List Node)
  | 0, _, _ => failure
  | fuel + 1, column, sharesColumn => do
    Reader.advance 1
    let item ← blockValue fuel (column + 1) false true .none
    Reader.skipBlank false false
    let next ← Reader.source
    if next.atEnd || next.column < column then return [item]
    Reader.require (next.column == column)
    if next.atIndicator '-' then return item :: (← sequenceItems fuel column sharesColumn)
    Reader.require sharesColumn
    return [item]

/-- Reads the value of a key, from its mark on, and the entries after it. -/
def mappingFrom : Nat → Nat → Node → Bool → Reader (List (Node × Node))
  | 0, _, _, _ => failure
  | fuel + 1, column, key, startsLine => do
    Reader.advance 1
    let value ← blockValue fuel (column + 1) true startsLine .none
    let others ← mappingEntries fuel column
    return (key, value) :: others

/-- Reads the entries of a mapping whose keys begin in a column. -/
def mappingEntries : Nat → Nat → Reader (List (Node × Node))
  | 0, _ => failure
  | fuel + 1, column => do
    Reader.skipBlank false false
    let start ← Reader.source
    if start.atEnd || start.column < column then return []
    Reader.require (start.column == column)
    if start.atIndicator '?' then
      Reader.advance 1
      let key ← blockValue fuel (column + 1) true true .none
      Reader.skipBlank false false
      let next ← Reader.source
      if !next.atEnd && next.column == column && next.atIndicator ':' then
        mappingFrom fuel column key true
      else
        let others ← mappingEntries fuel column
        return (key, .empty) :: others
    else
      let properties ← Reader.properties false 2 .none
      let opening ← properties.begin
      let node ← nodeContent fuel false (column + 1) properties
      let after ← Reader.source
      Reader.skipBlank false true
      let colon ← Reader.source
      Reader.require (isKey start after colon)
      let key ← opening.attach node
      mappingFrom fuel column key false

end

/-! ### Documents -/

/-- Reads the directives before a document, where some were read already, and gives all of them. The
version is 1.1 or 1.2, and it is given once at most. A directive ends with its line, and tabs may
begin the line after it. -/
def directives : Nat → List Directive → Reader (List Directive)
  | 0, _ => failure
  | fuel + 1, given => do
    Reader.skipBlank false (!given.isEmpty)
    let start ← Reader.source
    if start.column == 0 && start.rest.head? == some '%' then
      let directive ← (Directive.ofLine? (start.lineRest.drop 1) : Option Directive)
      match directive with
      | .version major minor =>
        Reader.require (major == 1 && (minor == 1 || minor == 2) && !given.any Directive.isVersion)
      | .handle name replacement =>
        let declared ← ((← get).handles.declare? name replacement : Option Handles)
        modify fun state => { state with handles := declared }
      Reader.nextLine
      directives fuel (directive :: given)
    else return given

/-- Skips the marks at the end of a document and makes sure that nothing follows. Tabs may follow a
mark, but not begin a line. -/
def expectEnd : Nat → Bool → Reader Unit
  | 0, _ => failure
  | fuel + 1, tabs => do
    Reader.skipBlank false tabs
    let next ← Reader.source
    if next.rest.isEmpty then return
    Reader.require (Source.atMark "..." next.rest next.column)
    Reader.advance 3
    expectEnd fuel true

/-- Reads the one document of a text. -/
def document (fuel : Nat) : Reader Node := do
  let given ← directives fuel []
  let start ← Reader.source
  let isMarked := Source.atMark "---" start.rest start.column
  Reader.require (isMarked || (given.isEmpty && !Source.atMark "..." start.rest start.column))
  if isMarked then Reader.advance 3
  let node ← blockValue fuel 0 false (!isMarked) .none
  expectEnd fuel false
  return node

end ContainerStack.Yaml

namespace ContainerStack

/-- The tree of a text with one YAML document. -/
def Data.ofYaml? (text : String) : Option Data := do
  let source ← Yaml.Source.ofText? text
  let (node, state) ← (Yaml.document (4 * source.rest.length + 16)).run (.ofSource source)
  node.expand? state.target?

end ContainerStack
