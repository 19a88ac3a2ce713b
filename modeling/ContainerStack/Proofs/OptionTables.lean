import ContainerStack.Proofs.Changes
import ContainerStack.Proofs.Maps

/-!
**Options of drivers, read and written.**

Options are taken out of a bag along the table of a driver. They are accepted exactly if the bag is
empty then and every row of the table is met, and what was taken are all options that were given, in
the order of the table. So options that are written out and read again come back.

* `OptionForm.Has`, `OptionRule.Met`: what a form and a row ask, said of the value.
* `OptionBag.takeAll_eq_ok`: taking all options of a table out of a bag.
* `Suits`: the options that a table accepts; `suits_iff`: the same, key by key.
* `DriverOptions.ofPairs_eq_ok`, `DriverOptions.perm_of_suits`: these are read, and none is lost.
  `DriverOptions.ofPairs_toList`: what is valid is read again.
* `DriverOptions.read_eq_ok`: reading a driver by its word and then its options.
-/

namespace ContainerStack

open Edit

/-! ### Values of options -/

/-- There is a value, and it is not blank. -/
def NotBlank (value : Option String) : Prop :=
  ∃ text, value = some text ∧ Text.isBlankText text = false

/-- The value has the form. -/
def OptionForm.Has (value : String) : OptionForm → Prop
  | anything => True
  | boolean => value = "true" ∨ value = "false"
  | positiveInteger => ∃ number, Numeral.unsigned? Numeral.max32 value = some number ∧ 1 ≤ number
  | absoluteExport => value.toList.head? = some '/'
  | byteSize => isByteSize value = true
  | userNumber => ∃ number, Numeral.unsigned? Numeral.max32 value = some number
  | wholeNumber => ∃ number, Numeral.unsigned? Numeral.max64 value = some number ∧ 1 ≤ number

theorem boolean_eq_ok (subject : String) {value : String} :
    (∃ read, Validation.boolean subject value = .ok read) ↔ value = "true" ∨ value = "false" := by
  unfold Validation.boolean
  split
  · simp_all
  · split <;> simp_all

/-- **A form accepts the values that have it.** -/
theorem OptionForm.check_eq_ok {subject value : String} {form : OptionForm} :
    form.check subject value = .ok () ↔ form.Has value := by
  cases form with
  | anything => exact iff_of_true rfl trivial
  | boolean =>
    rw [check, Has, ← boolean_eq_ok subject, bind_eq_ok]
    exact exists_congr fun _ => and_iff_left rfl
  | positiveInteger => simp [check, Has, Validation.ensure_eq_ok, Option.any_eq_true]
  | absoluteExport => simp [check, Has, Validation.ensure_eq_ok]
  | byteSize => simp [check, Has, Validation.byteSize, Validation.ensure_eq_ok]
  | userNumber => simp [check, Has, Validation.ensure_eq_ok, Option.isSome_iff_exists]
  | wholeNumber =>
    unfold check Has
    cases Numeral.unsigned? Numeral.max64 value <;> simp [Validation.ensure_eq_ok]

namespace OptionRule

/-- What a row of a table asks of the value of its option: to be there and not blank if the option
is required, and to have its form if it is there. -/
structure Met (rule : OptionRule) (value : Option String) : Prop where
  present : rule.isRequired = true → NotBlank value
  formed : ∀ text, value = some text → rule.form.Has text

/-- The check of the value of one option. -/
def check (context subject : String) (rule : OptionRule) (value : Option String) :
    Except Fault Unit := do
  if rule.isRequired then Validation.present context rule.key (value.getD "")
  match value with
  | some text => rule.form.check (subject ++ rule.key) text
  | none => .ok ()

theorem present_eq_ok {context field : String} {value : Option String} :
    Validation.present context field (value.getD "") = .ok () ↔ NotBlank value := by
  cases value with
  | none => simp [Validation.present, Validation.ensure_eq_ok, NotBlank, Text.isBlankText]
  | some text => simp [Validation.present, Validation.ensure_eq_ok, NotBlank]

theorem check_eq_ok {context subject : String} {rule : OptionRule} {value : Option String} :
    rule.check context subject value = .ok () ↔ rule.Met value := by
  have formed : (match value with
      | some text => rule.form.check (subject ++ rule.key) text
      | none => .ok ()) = .ok () ↔ ∀ text, value = some text → rule.form.Has text := by
    cases value <;> simp [OptionForm.check_eq_ok]
  unfold check
  by_cases isRequired : rule.isRequired = true
  · rw [if_pos isRequired, bind_eq_ok]
    constructor
    · rintro ⟨_, present, rest⟩
      exact ⟨fun _ => present_eq_ok.mp present, formed.mp rest⟩
    · exact fun met => ⟨_, present_eq_ok.mpr (met.present isRequired), formed.mpr met.formed⟩
  · rw [if_neg isRequired]
    exact formed.trans ⟨fun rest => ⟨fun required => absurd required isRequired, rest⟩, Met.formed⟩

end OptionRule

/-- **Options are valid exactly if every row is met.** -/
theorem DriverOptions.validateEntries_eq_ok {context subject : String}
    {entries : List (String × String)} {table : List OptionRule} :
    validateEntries context subject entries table = .ok () ↔
      ∀ rule ∈ table, rule.Met (entries.lookup rule.key) := by
  induction table with
  | nil => exact iff_of_true rfl nofun
  | cons rule rest ih =>
    have row : validateEntries context subject entries (rule :: rest) = (do
        rule.check context subject (entries.lookup rule.key)
        validateEntries context subject entries rest) := by
      rw [validateEntries]
      unfold OptionRule.check
      cases rule.isRequired <;> cases entries.lookup rule.key <;> simp [bind_assoc]
    rw [row, bind_eq_ok, List.forall_mem_cons, ← ih, ← OptionRule.check_eq_ok]
    exact ⟨fun ⟨_, here, later⟩ => ⟨here, later⟩, fun ⟨here, later⟩ => ⟨_, here, later⟩⟩

/-! ### Taking options out of a bag -/

namespace OrderedMap

variable {α : Type}

theorem get?_erase {entriesMap : OrderedMap α} {key other : String} (differs : other ≠ key) :
    (entriesMap.erase key).get? other = entriesMap.get? other := by
  refine Option.ext fun value => ?_
  simp only [get?_eq_some, erase, List.mem_filter, bne_iff_ne, ne_eq, differs, not_false_eq_true,
    and_true]

theorem keys_erase (entriesMap : OrderedMap α) (key : String) :
    (entriesMap.erase key).keys = entriesMap.keys.filter (· != key) :=
  (List.filter_map (p := (· != key)) ..).symm

/-- The map without some keys. -/
def eraseAll (entriesMap : OrderedMap α) (keys : List String) : OrderedMap α :=
  keys.foldl erase entriesMap

/-- **The other keys stay**, in their order. -/
theorem keys_eraseAll (entriesMap : OrderedMap α) (keys : List String) :
    (entriesMap.eraseAll keys).keys = entriesMap.keys.filter (· ∉ keys) := by
  induction keys generalizing entriesMap with
  | nil => simp [eraseAll]
  | cons first rest ih =>
    rw [eraseAll, List.foldl_cons, ← eraseAll, ih, keys_erase, List.filter_filter]
    refine List.filter_congr fun key _ => ?_
    rw [Bool.eq_iff_iff]
    simp [and_comm]

theorem mem_keys_eraseAll {entriesMap : OrderedMap α} {keys : List String} {key : String} :
    key ∈ (entriesMap.eraseAll keys).keys ↔ key ∈ entriesMap.keys ∧ key ∉ keys := by
  rw [keys_eraseAll, List.mem_filter, decide_eq_true_eq]

/-- **The other values stay**, and the keys are not found any more. -/
theorem get?_eraseAll (entriesMap : OrderedMap α) (keys : List String) (key : String) :
    (entriesMap.eraseAll keys).get? key = if key ∈ keys then none else entriesMap.get? key := by
  split
  · rename_i erased
    rw [← Option.not_isSome_iff_eq_none, get?_isSome, mem_keys_eraseAll]
    exact fun there => there.2 erased
  · rename_i kept
    induction keys generalizing entriesMap with
    | nil => rfl
    | cons first rest ih =>
      rw [List.mem_cons, not_or] at kept
      rw [eraseAll, List.foldl_cons, ← eraseAll, ih _ kept.2, get?_erase kept.1]

theorem among_cons (entriesMap : OrderedMap α) (key : String) (rest : List String) :
    entriesMap.among (key :: rest) =
      ((entriesMap.get? key).map fun value => (key, value)).toList ++ entriesMap.among rest := by
  rw [among, List.filterMap_cons]
  cases entriesMap.get? key <;> rfl

theorem among_erase {entriesMap : OrderedMap α} {key : String} {keys : List String}
    (other : key ∉ keys) : (entriesMap.erase key).among keys = entriesMap.among keys :=
  List.filterMap_congr fun _ member => by rw [get?_erase (ne_of_mem_of_not_mem member other)]

end OrderedMap

namespace DriverOptions

variable {table : List OptionRule}

/-- The options of a table that are given, in its order. -/
def among (given : OrderedMap String) : DriverOptions table :=
  ⟨given.among (tableKeys table), given.keys_among (tableKeys table)⟩

theorem among_nil (given : OrderedMap String) : (among given : DriverOptions []) = none := rfl

theorem among_cons {given : OrderedMap String} {rule : OptionRule}
    (new : rule.key ∉ tableKeys table) : (among given : DriverOptions (rule :: table)) =
      (among (given.erase rule.key)).pushIfSome rule (given.get? rule.key) := by
  refine Subtype.ext ((given.among_cons rule.key (tableKeys table)).trans ?_)
  rw [← OrderedMap.among_erase new]
  cases given.get? rule.key <;> rfl

end DriverOptions

namespace OptionBag

variable {bag left : OptionBag}

/-- The bag without some options. -/
def without (bag : OptionBag) (keys : List String) : OptionBag :=
  { bag with remaining := bag.remaining.eraseAll keys }

theorem take_apply (key : String) (bag : OptionBag) :
    (take key).apply bag = (.ok (bag.remaining.get? key), bag.without [key]) := rfl

/-- An option that must be there is taken out, and refused if it is missing or blank. -/
theorem takeRequired_apply (key : String) (bag : OptionBag) : (takeRequired key).apply bag =
    (match bag.remaining.get? key with
      | none => .error (.missing bag.context key)
      | some value =>
        if Text.isBlankText value then .error (.missing bag.context key) else .ok value,
      bag.without [key]) := by
  unfold takeRequired
  rw [apply_bind, apply_get]
  dsimp only
  rw [apply_bind, take_apply]
  cases bag.remaining.get? key with
  | none => rfl
  | some value =>
    cases blank : Text.isBlankText value <;>
      simp [Validation.present, Validation.ensure, blank, apply_map, Except.map]

/-- Takes the option of a row. -/
def takeRow (rule : OptionRule) : Edit OptionBag (Option String) :=
  if rule.isRequired then some <$> takeRequired rule.key else take rule.key

theorem takeRow_eq_ok {rule : OptionRule} {value : Option String} :
    (takeRow rule).apply bag = (.ok value, left) ↔
      bag.remaining.get? rule.key = value ∧ bag.without [rule.key] = left ∧
        (rule.isRequired = true → NotBlank (bag.remaining.get? rule.key)) := by
  unfold takeRow
  by_cases isRequired : rule.isRequired = true
  · rw [if_pos isRequired, apply_map, takeRequired_apply]
    cases bag.remaining.get? rule.key with
    | none => simp [Except.map, NotBlank, isRequired]
    | some text =>
      cases blank : Text.isBlankText text <;> simp [Except.map, NotBlank, blank, isRequired]
  · rw [if_neg isRequired, take_apply]
    simp [isRequired]

/-- **All options of a table are taken** exactly if every required one is there. -/
theorem takeAll_eq_ok {table : List OptionRule} (distinct : (tableKeys table).Nodup)
    {options : DriverOptions table} : (takeAll table).apply bag = (.ok options, left) ↔
      .among bag.remaining = options ∧ bag.without (tableKeys table) = left ∧
        ∀ rule ∈ table, rule.isRequired = true → NotBlank (bag.remaining.get? rule.key) := by
  induction table generalizing bag left with
  | nil => simp [takeAll, DriverOptions.among_nil, without, tableKeys, OrderedMap.eraseAll]
  | cons rule rest ih =>
    obtain ⟨new, distinct⟩ := List.nodup_cons.mp distinct
    have row : takeAll (rule :: rest) = (do
        let value ← takeRow rule
        let others ← takeAll rest
        return others.pushIfSome rule value) := by
      rw [takeAll]
      unfold takeRow
      cases rule.isRequired <;> rfl
    -- Taking the first option out leaves the values of the others as they are.
    have others : ∀ other ∈ rest,
        (bag.without [rule.key]).remaining.get? other.key = bag.remaining.get? other.key :=
      fun other member => OrderedMap.get?_erase
        (ne_of_mem_of_not_mem (List.mem_map_of_mem member) new)
    have taken : .among bag.remaining = DriverOptions.pushIfSome rule
        (bag.remaining.get? rule.key) (.among (bag.without [rule.key]).remaining) :=
      DriverOptions.among_cons new
    simp only [row, apply_bind_eq_ok, takeRow_eq_ok, ih distinct]
    constructor
    · rintro ⟨_, _, ⟨rfl, rfl, here⟩, _, _, ⟨rfl, rfl, later⟩, done⟩
      cases done
      refine ⟨taken, rfl, List.forall_mem_cons.mpr ⟨here, fun other member => ?_⟩⟩
      exact others other member ▸ later other member
    · rintro ⟨rfl, rfl, all⟩
      obtain ⟨here, later⟩ := List.forall_mem_cons.mp all
      refine ⟨_, _, ⟨rfl, rfl, here⟩, _, _, ⟨rfl, rfl, fun other member => ?_⟩, ?_⟩
      · exact (others other member).symm ▸ later other member
      · rw [taken]
        rfl

theorem close_eq_ok {answer : Unit} : bag.close = .ok answer ↔ bag.remaining.keys = [] := by
  unfold close
  cases bag.remaining.keys <;> simp

end OptionBag

/-! ### Reading and writing options -/

/-- Options that a table accepts: each belongs to a row, and every row is met. -/
structure Suits (table : List OptionRule) (given : OrderedMap String) : Prop where
  known : ∀ key ∈ given.keys, key ∈ tableKeys table
  met : ∀ rule ∈ table, rule.Met (given.get? rule.key)

/-- **A table told key by key**: what it accepts follows from the keys that it requires and the form
of every key. -/
theorem suits_iff {table : List OptionRule} {requiredKeys : List String}
    {formOf : String → OptionForm}
    (rules : ∀ rule ∈ table, rule.form = formOf rule.key ∧
      (rule.isRequired = true ↔ rule.key ∈ requiredKeys))
    (needed : requiredKeys ⊆ tableKeys table) {given : OrderedMap String} :
    Suits table given ↔ (∀ key ∈ given.keys, key ∈ tableKeys table) ∧
      (∀ key ∈ requiredKeys, NotBlank (given.get? key)) ∧
      ∀ key value, given.get? key = some value → (formOf key).Has value := by
  constructor
  · intro suits
    refine ⟨suits.known, fun key isRequired => ?_, fun key value there => ?_⟩
    · obtain ⟨rule, member, rfl⟩ := List.mem_map.mp (needed isRequired)
      exact (suits.met rule member).present ((rules rule member).2.mpr isRequired)
    · have known := suits.known key (OrderedMap.get?_isSome.mp (by rw [there]; rfl))
      obtain ⟨rule, member, rfl⟩ := List.mem_map.mp known
      exact (rules rule member).1 ▸ (suits.met rule member).formed value there
  · rintro ⟨known, required, formed⟩
    refine ⟨known, fun rule member => ⟨fun isRequired => ?_, fun value there => ?_⟩⟩
    · exact required rule.key ((rules rule member).2.mp isRequired)
    · exact (rules rule member).1 ▸ formed rule.key value there

namespace DriverOptions

variable {context subject : String} {table : List OptionRule}

theorem get?_among (distinct : (tableKeys table).Nodup) (given : OrderedMap String) {key : String}
    (listed : key ∈ tableKeys table) :
    (among given : DriverOptions table).get? key = given.get? key :=
  OrderedMap.lookup_among distinct listed

/-- What is made of the options is made of what is found along the table. -/
theorem map_toList {β : Type} (distinct : (tableKeys table).Nodup) (options : DriverOptions table)
    (make : String × String → β) : options.toList.map make =
      (tableKeys table).filterMap fun key =>
        (options.get? key).map fun value => make (key, value) := by
  have follows := OrderedMap.eq_filterMap_lookup options.property distinct
  rw [toList, follows, List.map_filterMap]
  refine List.filterMap_congr fun key _ => ?_
  rw [Option.map_map]
  rfl

theorem validate_among (distinct : (tableKeys table).Nodup) {given : OrderedMap String} :
    (among given : DriverOptions table).validate context subject = .ok () ↔
      ∀ rule ∈ table, rule.Met (given.get? rule.key) := by
  rw [validate, validateEntries_eq_ok]
  refine forall₂_congr fun rule member => ?_
  rw [among, OrderedMap.lookup_among distinct (List.mem_map_of_mem member)]

/-- **Options are read exactly if the table accepts them**, and then none is lost. -/
theorem ofPairs_eq_ok (distinct : (tableKeys table).Nodup) {given : OrderedMap String}
    {options : DriverOptions table} :
    ofPairs context subject table given = .ok options ↔
      Suits table given ∧ .among given = options := by
  have closed {bag : OptionBag} (keys : List String) : (bag.without keys).remaining.keys = [] ↔
      ∀ key ∈ bag.remaining.keys, key ∈ keys := by
    simp [List.eq_nil_iff_forall_not_mem, OptionBag.without, OrderedMap.mem_keys_eraseAll]
  unfold ofPairs
  constructor
  · intro read
    obtain ⟨⟨taken, left⟩, taking, read⟩ := bind_eq_ok.mp read
    obtain ⟨rfl, rfl, _⟩ := (OptionBag.takeAll_eq_ok distinct).mp (onCopy_eq_ok.mp taking)
    obtain ⟨_, empty, read⟩ := bind_eq_ok.mp read
    obtain ⟨_, valid, same⟩ := bind_eq_ok.mp read
    cases same
    have known := (closed _).mp (OptionBag.close_eq_ok.mp empty)
    exact ⟨⟨known, (validate_among distinct).mp valid⟩, rfl⟩
  · rintro ⟨suits, rfl⟩
    have taking : (OptionBag.takeAll table).apply ⟨context, given⟩ = _ :=
      (OptionBag.takeAll_eq_ok distinct).mpr
        ⟨rfl, rfl, fun rule member => (suits.met rule member).present⟩
    refine bind_eq_ok.mpr ⟨_, onCopy_eq_ok.mpr taking, bind_eq_ok.mpr ⟨(), ?empty, ?rest⟩⟩
    case empty => exact OptionBag.close_eq_ok.mpr ((closed _).mpr suits.known)
    case rest => exact bind_eq_ok.mpr ⟨(), (validate_among distinct).mpr suits.met, rfl⟩

/-- **Reading a driver by its word and then its options**: the word is that of a driver, and its
table accepts the options. -/
theorem read_eq_ok {δ γ : Type} {word : δ → String} {find : String → Except Fault δ}
    (finds : ∀ {value driver}, find value = .ok driver ↔ word driver = value)
    {tables : δ → List OptionRule} (distinct : ∀ driver, (tableKeys (tables driver)).Nodup)
    {contextOf subjectOf : δ → String} {make : (driver : δ) → DriverOptions (tables driver) → γ}
    {value : String} {given : OrderedMap String} {result : γ} :
    (do
      let driver ← find value
      let options ← ofPairs (contextOf driver) (subjectOf driver) (tables driver) given
      return make driver options) = .ok result ↔
      ∃ driver, word driver = value ∧ Suits (tables driver) given ∧
        result = make driver (.among given) := by
  constructor
  · intro read
    obtain ⟨driver, named, read⟩ := bind_eq_ok.mp read
    obtain ⟨_, taken, same⟩ := bind_eq_ok.mp read
    obtain ⟨suits, rfl⟩ := (ofPairs_eq_ok (distinct driver)).mp taken
    cases same
    exact ⟨driver, finds.mp named, suits, rfl⟩
  · rintro ⟨driver, named, suits, rfl⟩
    refine bind_eq_ok.mpr ⟨driver, finds.mpr named, bind_eq_ok.mpr ⟨_, ?_, rfl⟩⟩
    exact (ofPairs_eq_ok (distinct driver)).mpr ⟨suits, rfl⟩

/-- **The options that were read are those that were given**, each once, in table order. -/
theorem perm_of_suits (distinct : (tableKeys table).Nodup) {given : OrderedMap String}
    (suits : Suits table given) : (among given : DriverOptions table).toList.Perm given.toList :=
  OrderedMap.perm_among distinct suits.known

/-- **Valid options that are written out are read again.** -/
theorem ofPairs_toList (distinct : (tableKeys table).Nodup) {options : DriverOptions table}
    (valid : options.validate context subject = .ok ()) :
    ofPairs context subject table (OrderedMap.ofList options.toList) = .ok options := by
  have same : .among (OrderedMap.ofList options.toList) = options :=
    Subtype.ext (OrderedMap.among_ofList options.property distinct)
  have met := (validate_among distinct).mp (same.symm ▸ valid)
  refine (ofPairs_eq_ok distinct).mpr ⟨⟨fun key there => ?_, met⟩, same⟩
  rw [OrderedMap.keys_ofList, List.mem_eraseDups] at there
  exact options.property.subset there

end DriverOptions

/-! ### Words and tables of drivers -/

/-- An item is found by its word. -/
theorem find?_word_eq_some {α : Type} {all : List α} {word : α → String}
    (each : ∀ item, (all.find? fun other => word other == word item) = some item)
    {value : String} {item : α} :
    (all.find? fun other => word other == value) = some item ↔ word item = value := by
  constructor
  · intro found
    have same := List.find?_some (p := fun other => word other == value) found
    exact eq_of_beq same
  · rintro rfl
    exact each item

theorem LoggingDriver.ofWord?_eq_some {value : String} {driver : LoggingDriver} :
    ofWord? value = some driver ↔ driver.word = value :=
  find?_word_eq_some fun driver => by cases driver <;> rfl

theorem VolumeDriver.ofWord?_eq_some {value : String} {driver : VolumeDriver} :
    ofWord? value = some driver ↔ driver.word = value :=
  find?_word_eq_some fun driver => by cases driver <;> rfl

theorem LoggingDriver.nodup_tableKeys (driver : LoggingDriver) :
    (tableKeys driver.table).Nodup := by
  cases driver <;> decide

theorem VolumeDriver.nodup_tableKeys (driver : VolumeDriver) :
    (tableKeys driver.table).Nodup := by
  cases driver <;> decide

end ContainerStack
