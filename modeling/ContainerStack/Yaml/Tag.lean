import ContainerStack.Numeral

/-!
**Tags of YAML nodes.**

A tag is a row of bytes, because its escapes may write any. A tag that begins with an exclamation
mark is local to a document: what follows the mark is a word that selects one form of a value. Other
tags name the types that YAML itself knows.

* `Tag.ofString`, `Tag.core`: tags of a text, and the tags of YAML itself.
* `Tag.choice?`: the word of a local tag.
* `Tag.bytes?`: the bytes that a tag is written with, its escapes replaced.
-/

namespace ContainerStack.Yaml

/-- A tag. -/
structure Tag where
  bytes : List UInt8
  deriving DecidableEq, Repr

namespace Tag

/-- The tag of a text. -/
def ofString (text : String) : Tag := ⟨text.toUTF8.toList⟩

/-- The tag of a type that YAML itself knows. -/
def core (name : String) : Tag := ofString ("tag:yaml.org,2002:" ++ name)

/-- The tag of a mark alone. -/
def bare : Tag := ofString "!"

/-- Whether the tag is local to a document. -/
def isLocal (tag : Tag) : Bool := tag.bytes.head? == some 0x21

/-- The word that a local tag selects a form by, if it is text. -/
def choice? (tag : Tag) : Option String :=
  if tag.isLocal then String.fromUTF8? ⟨(tag.bytes.drop 1).toArray⟩ else none

/-- Whether a character may be part of the name of a tree or of a group of tags. -/
def isNameChar (char : Char) : Bool := char.isAlphanum || char == '_' || char == '-'

/-- Whether a character may be part of a tag. -/
def isTagChar (char : Char) : Bool :=
  isNameChar char || ";/?:@&=+$.!~*()%".toList.contains char || char == '\x27'

/-- Whether a character may be part of a tag that is written in full. -/
def isFullTagChar (char : Char) : Bool := isTagChar char || [',', '[', ']'].contains char

/-- How many bytes follow the first one of a character, or nothing where it cannot be a first
one. -/
def following? (first : Nat) : Option Nat :=
  if first < 0x80 then some 0
  else if first < 0xC0 then none
  else if first < 0xE0 then some 1
  else if first < 0xF0 then some 2
  else if first < 0xF8 then some 3
  else none

/-- The bytes that characters write: a percent sign and two hexadecimal digits stand for one. Bytes
of one character are all written as escapes; `missing` of them are still to come. -/
def bytesFrom? : Nat → List Char → Option (List UInt8)
  | 0, [] => some []
  | _ + 1, [] => none
  | missing, '%' :: high :: low :: rest => do
    guard (Numeral.isHexDigit high && Numeral.isHexDigit low)
    let byte := 16 * Numeral.hexDigitValue high + Numeral.hexDigitValue low
    let next ← match missing with
      | 0 => following? byte
      | more + 1 => if 0x80 ≤ byte ∧ byte < 0xC0 then some more else none
    let others ← bytesFrom? next rest
    return byte.toUInt8 :: others
  | 0, char :: rest => do
    guard (char != '%')
    let others ← bytesFrom? 0 rest
    return char.toNat.toUInt8 :: others
  | _ + 1, _ :: _ => none

/-- The bytes of a tag up to a null byte, which ends it. -/
def bytes? (chars : List Char) : Option (List UInt8) :=
  (bytesFrom? 0 chars).map fun bytes => bytes.takeWhile (· != 0)

end Tag

end ContainerStack.Yaml
