import ContainerStack.Yaml.Plain
import ContainerStack.Yaml.Tag

/-!
**Trees of data.**

Definitions are read from trees of scalars, sequences and mappings. A scalar that was written
without quotes keeps its text, because what it means depends on what is asked for: where text is
wanted it is the text as written. Where a value may have several forms its scalars are given their
own meaning first.

* `Data`: a tree.
* `Data.resolve?`: the tree with a meaning for each plain scalar.
-/

namespace ContainerStack

open Yaml (Tag)

/-- A tree of data. -/
inductive Data where
  | null
  | boolean (value : Bool)
  | natural (value : Nat)
  /-- A whole number with a minus sign, which may be zero. -/
  | negative (magnitude : Nat)
  /-- A number with a point or exponent; its value is never asked for. -/
  | fraction
  | text (value : String)
  /-- A scalar without quotes, as it is written. -/
  | plain (written : String)
  /-- A scalar of lines that are kept as they are. -/
  | literal (value : String)
  /-- A value with an explicit tag. -/
  | tagged (tag : Tag) (value : Data)
  | sequence (items : List Data)
  | mapping (entries : List (Data × Data))
  deriving Inhabited

namespace Data

/-- The value of a plain scalar by its meaning, unless no definition can hold it. -/
def ofMeaning? (written : String) : Yaml.Plain.Meaning → Option Data
  | .nothing => some null
  | .boolean value => some (boolean value)
  | .natural value => some (natural value)
  | .negative magnitude => some (negative magnitude)
  | .large => none
  | .fraction => some fraction
  | .text => some (text written)

/-- The value of a plain scalar. -/
def ofPlain? (written : String) : Option Data := ofMeaning? written (Yaml.Plain.meaning written)

/-- The value of a scalar with a tag: the tags of YAML itself ask for one reading, and a word
selects a form that no definition has. -/
def ofTagged? (tag : Tag) (isPlain : Bool) (written : String) : Option Data :=
  if tag.choice?.isSome then none
  else if tag = Tag.core "bool" then (Yaml.Plain.boolean? written).map boolean
  else if tag = Tag.core "int" then (Yaml.Plain.whole? written).bind (ofMeaning? written)
  else if tag = Tag.core "float" then
    if Yaml.Plain.isNumber written then some fraction else none
  else if tag = Tag.core "null" then if Yaml.Plain.isNothing written then some null else none
  else if tag.isLocal && isPlain then ofPlain? written
  else some (text written)

mutual

/-- The tree with a meaning for each plain scalar. -/
def resolve? : Data → Option Data
  | plain written => ofPlain? written
  | literal value => some (text value)
  | tagged tag (plain written) => ofTagged? tag true written
  | tagged tag (literal value) => ofTagged? tag false value
  | tagged tag (text value) => ofTagged? tag false value
  | tagged tag value => if tag.choice?.isSome then none else resolve? value
  | sequence items => (resolveItems? items).map sequence
  | mapping entries => (resolveEntries? entries).map mapping
  | value => some value

/-- The items of a sequence with a meaning for each plain scalar. -/
def resolveItems? : List Data → Option (List Data)
  | [] => some []
  | item :: rest => do
    let resolved ← resolve? item
    let others ← resolveItems? rest
    return resolved :: others

/-- The entries of a mapping with a meaning for each plain scalar. -/
def resolveEntries? : List (Data × Data) → Option (List (Data × Data))
  | [] => some []
  | (key, value) :: rest => do
    let resolvedKey ← resolve? key
    let resolvedValue ← resolve? value
    let others ← resolveEntries? rest
    return (resolvedKey, resolvedValue) :: others

end

end Data

end ContainerStack
