import ContainerStack.Proofs.OptionTables

/-!
**Options of logging drivers.**

* `LoggingDriver.Takes`: the options that a driver takes, what it needs and the forms of values.
  `takes_iff_suits`: these are the options that its table accepts.
* `logging_options_exact`: the options of a known driver are read exactly if it takes them, none is
  lost, and what is written out is read again.
-/

namespace ContainerStack

open Edit

namespace LoggingDriver

/-- The options of a driver, in the order in which they are written out. -/
def knownKeys : LoggingDriver → List String
  | jsonFile | localFile => ["max-size", "max-file", "compress"]
  | syslog => ["syslog-address", "syslog-facility", "tag", "syslog-format"]
  | journald => ["tag", "labels"]
  | gelf => ["gelf-address", "tag", "gelf-compression-type"]
  | fluentd => ["fluentd-address", "tag", "fluentd-async"]
  | awslogs => ["awslogs-region", "awslogs-group", "awslogs-stream", "awslogs-create-group"]
  | splunk => ["splunk-token", "splunk-url", "splunk-source", "splunk-index"]
  | gcplogs => ["gcp-project", "gcp-log-cmd"]
  | discard => []

/-- The options without which a driver is refused. -/
def requiredKeys : LoggingDriver → List String
  | gelf => ["gelf-address"]
  | awslogs => ["awslogs-region", "awslogs-group"]
  | splunk => ["splunk-token", "splunk-url"]
  | _ => []

/-- The options that are true or false. -/
def booleanKeys : List String := ["compress", "fluentd-async", "awslogs-create-group"]

/-- The options that a driver takes. -/
structure Takes (driver : LoggingDriver) (given : OrderedMap String) : Prop where
  known : ∀ key ∈ given.keys, key ∈ driver.knownKeys
  required : ∀ key ∈ driver.requiredKeys, NotBlank (given.get? key)
  maxFile : ∀ value, given.get? "max-file" = some value →
    ∃ number, Numeral.unsigned? Numeral.max32 value = some number ∧ 1 ≤ number
  booleans : ∀ key ∈ booleanKeys, ∀ value, given.get? key = some value →
    value = "true" ∨ value = "false"

/-- The form of an option, which is the same for all drivers that know it. -/
def formOf (key : String) : OptionForm :=
  if key = "max-file" then .positiveInteger
  else if key ∈ booleanKeys then .boolean
  else .anything

theorem tableKeys_eq (driver : LoggingDriver) : tableKeys driver.table = driver.knownKeys := by
  cases driver <;> rfl

theorem table_rules (driver : LoggingDriver) : ∀ rule ∈ driver.table,
    rule.form = formOf rule.key ∧ (rule.isRequired = true ↔ rule.key ∈ driver.requiredKeys) := by
  cases driver <;> decide

theorem formOf_boolean : ∀ key ∈ booleanKeys, formOf key = .boolean := by decide

theorem requiredKeys_subset (driver : LoggingDriver) :
    driver.requiredKeys ⊆ tableKeys driver.table := by
  cases driver <;> decide

/-- **A driver takes what its table accepts.** -/
theorem takes_iff_suits {driver : LoggingDriver} {given : OrderedMap String} :
    driver.Takes given ↔ Suits driver.table given := by
  rw [suits_iff driver.table_rules driver.requiredKeys_subset, tableKeys_eq]
  constructor
  · intro takes
    refine ⟨takes.known, takes.required, fun key value there => ?_⟩
    unfold formOf
    split_ifs with isMaxFile isBoolean
    · exact takes.maxFile value (isMaxFile ▸ there)
    · exact takes.booleans key isBoolean value there
    · trivial
  · rintro ⟨known, required, formed⟩
    refine ⟨known, required, formed "max-file", fun key isBoolean value there => ?_⟩
    have boolean := formed key value there
    rwa [formOf_boolean key isBoolean] at boolean

end LoggingDriver

namespace Logging

theorem driverOf_eq_ok {value : String} {driver : LoggingDriver} :
    driverOf value = .ok driver ↔ driver.word = value := by
  rw [← LoggingDriver.ofWord?_eq_some, driverOf]
  cases LoggingDriver.ofWord? value <;> simp

/-- **The options of a known driver are read exactly if it takes them.** -/
theorem ofPairs_eq_ok {value : String} {given : OrderedMap String} {logging : Logging} :
    ofPairs value given = .ok logging ↔ ∃ driver : LoggingDriver, driver.word = value ∧
      driver.Takes given ∧ logging = ⟨driver, .among given⟩ := by
  simp only [LoggingDriver.takes_iff_suits]
  exact DriverOptions.read_eq_ok driverOf_eq_ok LoggingDriver.nodup_tableKeys

/-- **Valid logging that is written out is read again.** -/
theorem ofPairs_toList {logging : Logging} (valid : logging.validate = .ok ()) :
    ofPairs logging.driver.word (OrderedMap.ofList logging.options.toList) = .ok logging := by
  refine bind_eq_ok.mpr ⟨_, driverOf_eq_ok.mpr rfl, bind_eq_ok.mpr ⟨_, ?_, rfl⟩⟩
  exact DriverOptions.ofPairs_toList logging.driver.nodup_tableKeys valid

/-- The logging has exactly the options that were given, each once and in the order in which its
driver writes them out. -/
structure Keeps (logging : Logging) (given : OrderedMap String) : Prop where
  same : logging.options.toList.Perm given.toList
  once : (logging.options.toList.map Prod.fst).Nodup
  ordered : (logging.options.toList.map Prod.fst).Sublist logging.driver.knownKeys

/-- **What a driver takes is kept.** -/
theorem keeps_among {driver : LoggingDriver} {given : OrderedMap String}
    (takes : driver.Takes given) : (⟨driver, .among given⟩ : Logging).Keeps given := by
  have ordered := (DriverOptions.among given : DriverOptions driver.table).property
  have suits := LoggingDriver.takes_iff_suits.mp takes
  exact ⟨DriverOptions.perm_of_suits driver.nodup_tableKeys suits,
    ordered.nodup driver.nodup_tableKeys, driver.tableKeys_eq ▸ ordered⟩

end Logging

/-- **Options of logging are read and written consistently.** Whatever word and options are given,
they are read exactly if the word is that of a driver that takes the options. What is read has the
word and exactly the options. Logging that is valid is read again from its word and its options. -/
theorem logging_options_exact (value : String) (given : OrderedMap String) :
    ((∃ logging, Logging.ofPairs value given = .ok logging) ↔
      ∃ driver : LoggingDriver, driver.word = value ∧ driver.Takes given) ∧
    (∀ logging, Logging.ofPairs value given = .ok logging →
      logging.driver.word = value ∧ logging.Keeps given) ∧
    ∀ logging : Logging, logging.validate = .ok () →
      Logging.ofPairs logging.driver.word (OrderedMap.ofList logging.options.toList) =
        .ok logging := by
  refine ⟨⟨?accepted, ?accepts⟩, fun logging read => ?kept, fun _ => Logging.ofPairs_toList⟩
  case accepted =>
    rintro ⟨logging, read⟩
    obtain ⟨driver, named, takes, _⟩ := Logging.ofPairs_eq_ok.mp read
    exact ⟨driver, named, takes⟩
  case accepts =>
    rintro ⟨driver, named, takes⟩
    exact ⟨_, Logging.ofPairs_eq_ok.mpr ⟨driver, named, takes, rfl⟩⟩
  case kept =>
    obtain ⟨driver, named, takes, rfl⟩ := Logging.ofPairs_eq_ok.mp read
    exact ⟨named, Logging.keeps_among takes⟩

/-- Options that are given in another order than that of the driver. -/
def LoggingDriver.streamOptions : OrderedMap String :=
  OrderedMap.ofList [("awslogs-create-group", "true"), ("awslogs-group", "web"),
    ("awslogs-region", "eu-west-1")]

/-- Options of files, one of which is a number and one a truth value. -/
def LoggingDriver.fileOptions : OrderedMap String :=
  OrderedMap.ofList [("compress", "false"), ("max-file", "3"), ("max-size", "10m")]

theorem logging_options_exact_streamOptions :
    (∃ logging, Logging.ofPairs "awslogs" LoggingDriver.streamOptions = .ok logging ∧
      (logging.driver.word = "awslogs" ∧ logging.Keeps LoggingDriver.streamOptions) ∧
      logging.options.toList = [("awslogs-region", "eu-west-1"), ("awslogs-group", "web"),
        ("awslogs-create-group", "true")] ∧
      logging.validate = .ok () ∧
      Logging.ofPairs logging.driver.word (OrderedMap.ofList logging.options.toList) =
        .ok logging) ∧
    (∃ logging, Logging.ofPairs "json-file" LoggingDriver.fileOptions = .ok logging ∧
      (logging.driver.word = "json-file" ∧ logging.Keeps LoggingDriver.fileOptions) ∧
      logging.options.toList = [("max-size", "10m"), ("max-file", "3"), ("compress", "false")] ∧
      logging.validate = .ok () ∧
      Logging.ofPairs logging.driver.word (OrderedMap.ofList logging.options.toList) =
        .ok logging) ∧
    ¬∃ logging, Logging.ofPairs "json-file" (OrderedMap.ofList [("max-file", "0")]) =
      .ok logging := by
  refine ⟨?stream, ?file, ?refused⟩
  case stream =>
    have exactly := logging_options_exact "awslogs" LoggingDriver.streamOptions
    have read : Logging.ofPairs "awslogs" LoggingDriver.streamOptions = .ok _ := rfl
    refine ⟨_, read, exactly.2.1 _ read, rfl, ?valid, exactly.2.2 _ ?valid⟩
    case valid => rfl
  case file =>
    have exactly := logging_options_exact "json-file" LoggingDriver.fileOptions
    have read : Logging.ofPairs "json-file" LoggingDriver.fileOptions = .ok _ := rfl
    refine ⟨_, read, exactly.2.1 _ read, rfl, ?valid, exactly.2.2 _ ?valid⟩
    case valid => rfl
  case refused =>
    rw [(logging_options_exact "json-file" _).1]
    rintro ⟨driver, _, takes⟩
    obtain ⟨number, read, positive⟩ := takes.maxFile "0" rfl
    cases read
    cases positive

end ContainerStack
