import ContainerStack.Yaml.Source
import ContainerStack.Yaml.Tag

/-!
**Directives before a YAML document.**

A directive is a line that begins with a percent sign: it tells the version of YAML, or what a
handle of tags stands for. A comment may follow it.

* `Directive.ofLine?`: reads the line after its sign.
* `Handles.declare?`: the handles after a directive; none is declared twice.
-/

namespace ContainerStack.Yaml

/-- A directive. -/
inductive Directive where
  | version (major minor : Nat)
  | handle (name : String) (replacement : List UInt8)
  deriving DecidableEq, Repr

namespace Directive

/-- Whether a directive tells the version. -/
def isVersion : Directive → Bool
  | version _ _ => true
  | handle _ _ => false

/-- Skips the blanks at the beginning of text. -/
def skipBlanks (text : List Char) : List Char := text.dropWhile Source.isSpace

/-- A number of at most nine digits and the text after it. -/
def number? (text : List Char) : Option (Nat × List Char) :=
  let digits := text.takeWhile Numeral.isDigit
  if digits.isEmpty || 9 < digits.length then none
  else some (Numeral.ofDigits digits, text.drop digits.length)

/-- A version, two numbers with a point between them, and the text after it. -/
def version? (text : List Char) : Option (Directive × List Char) := do
  let (major, rest) ← number? text
  match rest with
  | '.' :: rest =>
    let (minor, rest) ← number? rest
    return (version major minor, rest)
  | _ => none

/-- The name of a handle and the text after it: two marks with a name between them, which may be
empty, or a mark alone. -/
def handleName? : List Char → Option (String × List Char)
  | '!' :: rest =>
    let name := rest.takeWhile Tag.isNameChar
    match rest.drop name.length with
    | '!' :: after => some (String.ofList ('!' :: name ++ ['!']), after)
    | after => if name.isEmpty then some ("!", after) else none
  | _ => none

/-- A handle, blanks and what it stands for, and the text after it. -/
def handle? (text : List Char) : Option (Directive × List Char) := do
  let (name, rest) ← handleName? text
  guard (rest.head?.any Source.isSpace)
  let rest := skipBlanks rest
  let chars := rest.takeWhile Tag.isFullTagChar
  guard (!chars.isEmpty)
  let after := rest.drop chars.length
  guard (Source.atBlank after)
  let replacement ← Tag.bytes? chars
  return (handle name replacement, after)

/-- The directive of a line after its sign. -/
def ofLine? (line : List Char) : Option Directive := do
  let name := line.takeWhile Tag.isNameChar
  let rest := line.drop name.length
  guard (Source.atBlank rest)
  let (directive, after) ←
    if name = "YAML".toList then version? (skipBlanks rest)
    else if name = "TAG".toList then handle? (skipBlanks rest)
    else none
  let rest := skipBlanks after
  guard (rest.isEmpty || rest.head? == some '#')
  return directive

end Directive

/-- What the handles of tags stand for. -/
abbrev Handles := List (String × List UInt8)

namespace Handles

/-- The handles that need no directive: a mark alone and two marks. -/
def usual : Handles :=
  [("!", Tag.bare.bytes), ("!!", (Tag.core "").bytes)]

/-- What a handle stands for: what was declared, or else what it usually stands for. -/
def replacement? (declared : Handles) (name : String) : Option (List UInt8) :=
  (declared ++ usual).lookup name

/-- The handles with one more, unless it was declared before. -/
def declare? (declared : Handles) (name : String) (replacement : List UInt8) : Option Handles :=
  if (declared.lookup name).isSome then none else some ((name, replacement) :: declared)

end Handles

end ContainerStack.Yaml
