import ContainerStack.DriverOptions

/-!
**Logging of services.**

A service logs through one of ten drivers, each with its own table of options.

* `LoggingDriver.table`: the options that a driver knows, in the order in which they are written.
* `Logging.ofPairs`: reads the options of a driver.
-/

namespace ContainerStack

/-- Where the output of a service goes. -/
inductive LoggingDriver where
  | jsonFile
  | localFile
  | syslog
  | journald
  | gelf
  | fluentd
  | awslogs
  | splunk
  | gcplogs
  | discard
  deriving DecidableEq, Repr

namespace LoggingDriver

/-- The word for a driver. -/
def word : LoggingDriver → String
  | jsonFile => "json-file"
  | localFile => "local"
  | syslog => "syslog"
  | journald => "journald"
  | gelf => "gelf"
  | fluentd => "fluentd"
  | awslogs => "awslogs"
  | splunk => "splunk"
  | gcplogs => "gcplogs"
  | discard => "none"

/-- All drivers. -/
def all : List LoggingDriver :=
  [jsonFile, localFile, syslog, journald, gelf, fluentd, awslogs, splunk, gcplogs, discard]

/-- The driver of a word. -/
def ofWord? (value : String) : Option LoggingDriver := all.find? fun driver => driver.word == value

/-- The table of drivers that write files. -/
def fileTable : List OptionRule :=
  [.optional "max-size", ⟨"max-file", false, .positiveInteger⟩, ⟨"compress", false, .boolean⟩]

/-- The options that a driver knows. -/
def table : LoggingDriver → List OptionRule
  | jsonFile => fileTable
  | localFile => fileTable
  | syslog =>
    [.optional "syslog-address", .optional "syslog-facility", .optional "tag",
      .optional "syslog-format"]
  | journald => [.optional "tag", .optional "labels"]
  | gelf => [.required "gelf-address", .optional "tag", .optional "gelf-compression-type"]
  | fluentd => [.optional "fluentd-address", .optional "tag", ⟨"fluentd-async", false, .boolean⟩]
  | awslogs =>
    [.required "awslogs-region", .required "awslogs-group", .optional "awslogs-stream",
      ⟨"awslogs-create-group", false, .boolean⟩]
  | splunk =>
    [.required "splunk-token", .required "splunk-url", .optional "splunk-source",
      .optional "splunk-index"]
  | gcplogs => [.optional "gcp-project", .optional "gcp-log-cmd"]
  | discard => []

end LoggingDriver

/-- A logging driver with its options. -/
structure Logging where
  driver : LoggingDriver
  options : DriverOptions driver.table

namespace Logging

/-- Logging as a definition gives it. -/
structure Spec where
  driver : String
  options : OrderedMap String
  deriving DecidableEq

instance : DecidableEq Logging
  | ⟨firstDriver, firstOptions⟩, ⟨secondDriver, secondOptions⟩ =>
    if sameDriver : firstDriver = secondDriver then
      if sameOptions : sameDriver ▸ firstOptions = secondOptions then
        isTrue (by subst sameDriver; subst sameOptions; rfl)
      else isFalse (by rintro ⟨⟩; exact sameOptions rfl)
    else isFalse (by rintro ⟨⟩; exact sameDriver rfl)

/-- How faults call a driver. -/
def contextOf (driver : String) : String := s!"logging driver '{driver}'"

/-- Accepts options that are there where they must be and have their forms. -/
def validate (logging : Logging) : Except Fault Unit :=
  logging.options.validate (contextOf logging.driver.word) ""

/-- The driver of a word, or the fault that there is none. -/
def driverOf (value : String) : Except Fault LoggingDriver :=
  match LoggingDriver.ofWord? value with
  | some driver => .ok driver
  | none => .error (.malformed "logging driver" (.unknownWord "driver" value []))

/-- Reads the options of a driver. -/
def ofPairs (driver : String) (given : OrderedMap String) : Except Fault Logging := do
  let known ← driverOf driver
  let options ← DriverOptions.ofPairs (contextOf driver) "" known.table given
  return ⟨known, options⟩

/-- The driver with the options that it knows among the given ones, unchecked. -/
def filled (driver : LoggingDriver) (given : OrderedMap String) : Logging :=
  ⟨driver, DriverOptions.filled given driver.table⟩

/-- Logging of a definition. -/
def ofSpec (spec : Spec) : Except Fault Logging := ofPairs spec.driver spec.options

end Logging

end ContainerStack
