import ContainerStack.Edit
import ContainerStack.OrderedMap
import ContainerStack.Validation

/-!
**Options of drivers.**

Every driver has a table of the options it knows. Options come as pairs of free text; they are taken
out of an `OptionBag` one by one, and what is left over when the bag is closed belongs to no option
of the driver.

* `OptionBag`: the options not taken yet, with the name of the driver for faults.
* `OptionRule`, `OptionForm`: one row of a table.
* `OptionBag.takeAll`: takes all options of a table, in table order.
* `DriverOptions.ofPairs`: the options of a driver, or the first fault.
-/

namespace ContainerStack

/-- The options of a driver that were not taken yet. -/
structure OptionBag where
  context : String
  remaining : OrderedMap String
  deriving DecidableEq

namespace OptionBag

/-- Takes an option that may be missing. -/
def take (key : String) : Edit OptionBag (Option String) := do
  let bag ← get
  set { bag with remaining := bag.remaining.erase key }
  return bag.remaining.get? key

/-- Takes an option that must be there and not be blank; a blank one is taken out all the same. -/
def takeRequired (key : String) : Edit OptionBag String := do
  let bag ← get
  match ← take key with
  | none => throw (.missing bag.context key)
  | some value =>
    Validation.present bag.context key value
    return value

/-- Accepts a bag that is empty; else names the first option that was not taken. -/
def close (bag : OptionBag) : Except Fault Unit :=
  match bag.remaining.keys with
  | [] => .ok ()
  | key :: _ => .error (.malformed (bag.context ++ " option") (.isNot key .driverOption))

end OptionBag

/-- What the value of an option has to be. -/
inductive OptionForm where
  | anything
  | boolean
  /-- A number of 32 bits from 1 on. -/
  | positiveInteger
  | absoluteExport
  | byteSize
  | userNumber
  /-- A number of 64 bits from 1 on. -/
  | wholeNumber
  deriving DecidableEq, Repr

/-- Accepts values of a form. -/
def OptionForm.check (subject value : String) : OptionForm → Except Fault Unit
  | anything => .ok ()
  | boolean => do
    let _ ← Validation.boolean subject value
  | positiveInteger =>
    Validation.ensure ((Numeral.unsigned? Numeral.max32 value).any (1 ≤ ·))
      (.outOfRange subject (.notPositiveInteger value))
  | absoluteExport =>
    Validation.ensure (value.toList.head? == some '/')
      (.malformed subject (.breaks value .absoluteExport))
  | byteSize => Validation.byteSize subject value
  | userNumber =>
    Validation.ensure (Numeral.unsigned? Numeral.max32 value).isSome
      (.malformed subject (.isNot value .userNumber))
  | wholeNumber =>
    match Numeral.unsigned? Numeral.max64 value with
    | none => .error (.malformed subject (.isNot value .wholeNumber))
    | some number => Validation.ensure (1 ≤ number) (.outOfRange subject .belowOne)

/-- One row of a driver's table. -/
structure OptionRule where
  key : String
  isRequired : Bool
  form : OptionForm
  deriving DecidableEq, Repr

/-- A row for an option that may be missing and has any value. -/
def OptionRule.optional (key : String) : OptionRule := ⟨key, false, .anything⟩

/-- A row for an option that must be there and has any value. -/
def OptionRule.required (key : String) : OptionRule := ⟨key, true, .anything⟩

/-- The keys of a table, in its order. -/
def tableKeys (table : List OptionRule) : List String := table.map OptionRule.key

/-- Pairs of a key and a value whose keys are some of a table's keys, in its order. -/
def DriverOptions (table : List OptionRule) : Type :=
  { entries : List (String × String) // (entries.map Prod.fst).Sublist (tableKeys table) }

namespace DriverOptions

variable {table : List OptionRule}

instance : DecidableEq (DriverOptions table) := inferInstanceAs (DecidableEq (Subtype _))

/-- The pairs in table order. -/
def toList (options : DriverOptions table) : List (String × String) := options.val

/-- The value of an option. -/
def get? (options : DriverOptions table) (key : String) : Option String := options.val.lookup key

/-- The options of no driver setting at all. -/
def none : DriverOptions table := ⟨[], List.nil_sublist _⟩

/-- The options of a longer table, without a value for its first row. -/
def skip (rule : OptionRule) (options : DriverOptions table) : DriverOptions (rule :: table) :=
  ⟨options.val, options.property.cons _⟩

/-- The options of a longer table, with a value for its first row. -/
def push (rule : OptionRule) (value : String) (options : DriverOptions table) :
    DriverOptions (rule :: table) :=
  ⟨(rule.key, value) :: options.val, options.property.cons_cons _⟩

/-- Puts a value in front if there is one. -/
def pushIfSome (rule : OptionRule) (value : Option String) (options : DriverOptions table) :
    DriverOptions (rule :: table) :=
  match value with
  | some text => options.push rule text
  | Option.none => options.skip rule

/-- Accepts options that are all there where they must be and have their forms. Faults name the
subject of a driver, which stands before the key unless it is empty. -/
def validateEntries (context subject : String) (entries : List (String × String)) :
    List OptionRule → Except Fault Unit
  | [] => .ok ()
  | rule :: rest => do
    let value := entries.lookup rule.key
    if rule.isRequired then Validation.present context rule.key (value.getD "")
    match value with
    | some text => rule.form.check (subject ++ rule.key) text
    | Option.none => .ok ()
    validateEntries context subject entries rest

/-- Accepts options that are all there where they must be and have their forms. -/
def validate (context subject : String) (options : DriverOptions table) : Except Fault Unit :=
  validateEntries context subject options.val table

/-- The options of a table as they are given, with empty text for required ones that are missing. -/
def filled (given : OrderedMap String) : (table : List OptionRule) → DriverOptions table
  | [] => none
  | rule :: rest =>
    let value := match given.get? rule.key with
      | some text => some text
      | Option.none => if rule.isRequired then some "" else Option.none
    (filled given rest).pushIfSome rule value

end DriverOptions

/-- Takes all options of a table out of a bag, in table order. -/
def OptionBag.takeAll : (table : List OptionRule) → Edit OptionBag (DriverOptions table)
  | [] => return DriverOptions.none
  | rule :: rest => do
    let value ← if rule.isRequired then some <$> takeRequired rule.key else take rule.key
    let others ← takeAll rest
    return others.pushIfSome rule value

namespace DriverOptions

/-- The options of a table among the given ones: required ones must be there, none may be left over,
and the values must have their forms. -/
def ofPairs (context subject : String) (table : List OptionRule) (given : OrderedMap String) :
    Except Fault (DriverOptions table) := do
  let (options, bag) ← (OptionBag.takeAll table).onCopy ⟨context, given⟩
  bag.close
  options.validate context subject
  return options

end DriverOptions

end ContainerStack
