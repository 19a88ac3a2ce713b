import ContainerStack.Data
import ContainerStack.OrderedMap

/-!
**Reading values out of trees of data.**

A reading takes a tree and gives a value, or nothing where the tree has not the form that is asked
for.

* `Data.text?`, `Data.boolean?`, `Data.number32?`, `Data.word?`: scalars.
* `Data.optional?`, `Data.list?`, `Data.map?`: values that may be missing, lists, and ordered maps.
* `Data.record?`: the fields of a record, and `Fields` to read them by name.
* `Data.resolved?`: a reading of a tree whose plain scalars were given their meaning.
-/

namespace ContainerStack

/-- The fields of a record by name. -/
abbrev Fields := List (String × Data)

namespace Data

variable {α : Type}

/-- The text of a scalar; a plain scalar is taken as written. -/
def text? : Data → Option String
  | text value => some value
  | plain written => some written
  | literal value => some value
  | tagged _ (text value) => some value
  | tagged _ (plain written) => some written
  | tagged _ (literal value) => some value
  | _ => none

/-- The text of a scalar that may stand for a value of a type: one without quotes, or one of lines
that has the tag of the type. -/
def written? (type : String) : Data → Option String
  | plain written => some written
  | tagged _ (plain written) => some written
  | tagged tag (literal value) => if tag = Yaml.Tag.core type then some value else none
  | _ => none

/-- A truth value. -/
def boolean? : Data → Option Bool
  | boolean value => some value
  | data => (data.written? "bool").bind Yaml.Plain.boolean?

/-- A number of 32 bits without sign; zero may have one. -/
def number32? : Data → Option Nat
  | natural value => if value ≤ Numeral.max32 then some value else none
  | negative magnitude => if magnitude = 0 then some 0 else none
  | data => (data.written? "int").bind (Yaml.Plain.unsigned? Numeral.max32)

/-- The name of a field: its key, or the name at its number where the key is one. A number without a
name has the empty name. -/
def fieldName? (known : List String) : Data → Option String
  | natural value => some (known[value]?.getD "")
  | key => key.text?

/-- Whether a scalar without quotes stands for nothing. -/
def isWrittenNothing : Data → Bool
  | plain written => written = "" || Yaml.Plain.isNothing written
  | _ => false

/-- Whether a tree is nothing. -/
def isNull : Data → Bool
  | null => true
  | _ => false

/-- Whether a tree is nothing or an empty mapping. -/
def isNullOrEmpty : Data → Bool
  | mapping [] => true
  | value => value.isNull

/-- A member of a closed list by its word. The word may be the tag of nothing, or the only key of a
mapping to a value that counts as nothing. -/
def wordOver? (isNothing : Data → Bool) (all : List α) (word : α → String) (data : Data) :
    Option α :=
  let member := fun value => all.find? fun each => word each == value
  match data with
  | tagged tag value =>
    match tag.choice? with
    | some chosen => if value.isWrittenNothing then member chosen else none
    | none => value.text?.bind member
  | mapping [(key, value)] =>
    if isNothing value then (fieldName? (all.map word) key).bind member else none
  | value => value.text?.bind member

/-- A member of a closed list by its word. -/
def word? (all : List α) (word : α → String) : Data → Option α := wordOver? isNull all word

/-- A value that may be missing. -/
def optional? (read : Data → Option α) : Data → Option (Option α)
  | null => some none
  | plain written =>
    if (plain written).isWrittenNothing then some none else (read (plain written)).map some
  | tagged tag (plain written) =>
    if tag = Yaml.Tag.core "null" then
      if Yaml.Plain.isNothing written then some none else none
    else (read (tagged tag (plain written))).map some
  | value => (read value).map some

/-- The items of a sequence; an empty scalar is an empty sequence. -/
def items? : Data → Option (List Data)
  | sequence items => some items
  | plain "" => some []
  | tagged _ (sequence items) => some items
  | tagged _ (plain "") => some []
  | _ => none

/-- The entries of a mapping; an empty scalar is an empty mapping. -/
def entries? : Data → Option (List (Data × Data))
  | mapping entries => some entries
  | plain "" => some []
  | tagged _ (mapping entries) => some entries
  | tagged _ (plain "") => some []
  | _ => none

/-- A list of values. -/
def list? (read : Data → Option α) (data : Data) : Option (List α) := do
  let items ← data.items?
  items.mapM read

/-- An ordered map of values; a repeated key keeps its first place and takes the last value. -/
def map? (read : Data → Option α) (data : Data) : Option (OrderedMap α) := do
  let entries ← data.entries?
  let pairs ← entries.mapM fun (key, value) => do
    let name ← key.text?
    let given ← read value
    return (name, given)
  return OrderedMap.ofList pairs

/-- The fields of a record. A strict record has only fields that are known; no known field is
given twice. -/
def record? (known : List String) (isStrict : Bool) (data : Data) : Option Fields := do
  let entries ← data.entries?
  let fields ← entries.mapM fun (key, value) => do
    let name ← fieldName? known key
    return (name, value)
  let names := (fields.map Prod.fst).filter known.contains
  if isStrict && names.length != fields.length then none
  else if names.eraseDups.length != names.length then none
  else return fields

/-- A sequence of at most as many values as there are fields as a mapping of the fields to them;
other trees as they are. -/
def named (known : List String) : Data → Data
  | sequence items =>
    if items.length ≤ known.length then mapping ((known.map text).zip items) else sequence items
  | data => data

/-- A reading of the tree whose plain scalars were given their meaning. -/
def resolved? (read : Data → Option α) (data : Data) : Option α := do
  let resolved ← data.resolve?
  read resolved

/-- The first of two readings that fits. -/
def either? (first second : Data → Option α) (data : Data) : Option α :=
  (first data).or (second data)

end Data

namespace Fields

variable {α : Type}

/-- A field that has to be there. -/
def required? (fields : Fields) (name : String) (read : Data → Option α) : Option α :=
  (fields.lookup name).bind read

/-- A field that may be missing or hold nothing. -/
def optional? (fields : Fields) (name : String) (read : Data → Option α) : Option (Option α) :=
  match fields.lookup name with
  | some data => data.optional? read
  | none => some none

/-- A field with a value for the case that it is missing. -/
def getD? (fields : Fields) (name : String) (read : Data → Option α) (absent : α) : Option α :=
  match fields.lookup name with
  | some data => read data
  | none => some absent

/-- A field with text that may be missing. -/
def text? (fields : Fields) (name : String) : Option (Option String) :=
  fields.optional? name Data.text?

/-- A field with a number that may be missing. -/
def number? (fields : Fields) (name : String) : Option (Option Nat) :=
  fields.optional? name Data.number32?

/-- A field with a truth value that may be missing. -/
def boolean? (fields : Fields) (name : String) : Option (Option Bool) :=
  fields.optional? name Data.boolean?

/-- A field with a truth value that is false when missing. -/
def flag? (fields : Fields) (name : String) : Option Bool := fields.getD? name Data.boolean? false

/-- A field with a list that is empty when missing. -/
def list? (fields : Fields) (name : String) (read : Data → Option α) : Option (List α) :=
  fields.getD? name (Data.list? read) []

/-- A field with a list of texts that is empty when missing. -/
def texts? (fields : Fields) (name : String) : Option (List String) := fields.list? name Data.text?

/-- A field with an ordered map that is empty when missing. -/
def map? (fields : Fields) (name : String) (read : Data → Option α) : Option (OrderedMap α) :=
  fields.getD? name (Data.map? read) .empty

/-- A field with an ordered map of texts that is empty when missing. -/
def textMap? (fields : Fields) (name : String) : Option (OrderedMap String) :=
  fields.map? name Data.text?

end Fields

end ContainerStack
