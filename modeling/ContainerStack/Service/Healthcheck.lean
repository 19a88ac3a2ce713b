import ContainerStack.Command

/-!
**Health checks of services.**

A check runs a command from time to time, or switches off the check of the image. A definition that
switches it off carries no other setting.

* `Healthcheck.ofSpec`: the check of a definition.
* `Healthcheck.testWords`: the command in the engine's list form.
-/

namespace ContainerStack

/-- How a service is probed. -/
structure Healthcheck where
  test : Option Command
  interval : Option String
  timeout : Option String
  startPeriod : Option String
  retries : Option Nat
  isDisabled : Bool
  deriving DecidableEq, Repr

namespace Healthcheck

/-- A check as a definition gives it. -/
structure Spec where
  test : Option Command
  interval : Option String
  timeout : Option String
  retries : Option Nat
  startPeriod : Option String
  disable : Bool
  deriving DecidableEq, Repr

/-- The check that runs a command. -/
def running (test : Command) : Except Fault Healthcheck := do
  test.validate "healthcheck test"
  return ⟨some test, none, none, none, none, false⟩

/-- The check that switches off the one of the image. -/
def disabled : Healthcheck := ⟨none, none, none, none, none, true⟩

/-- Sets the time between two probes. -/
def withInterval (check : Healthcheck) (interval : String) : Except Fault Healthcheck := do
  Validation.duration "healthcheck interval" interval
  return { check with interval := some interval }

/-- Sets the time that a probe may take. -/
def withTimeout (check : Healthcheck) (timeout : String) : Except Fault Healthcheck := do
  Validation.duration "healthcheck timeout" timeout
  return { check with timeout := some timeout }

/-- Sets the time after the start in which failures do not count. -/
def withStartPeriod (check : Healthcheck) (period : String) : Except Fault Healthcheck := do
  Validation.duration "healthcheck start_period" period
  return { check with startPeriod := some period }

/-- Sets the number of failures that count as unhealthy. -/
def withRetries (check : Healthcheck) (retries : Nat) : Except Fault Healthcheck := do
  Validation.ensure (retries != 0) (.outOfRange "healthcheck retries" .belowOne)
  return { check with retries := some retries }

/-- Applies a setter if there is a value for it. -/
def setIfSome {α β : Type} (value : Option α) (setter : β → α → Except Fault β) (target : β) :
    Except Fault β :=
  match value with
  | some given => setter target given
  | none => .ok target

/-- Whether a definition sets anything but the switch. -/
def Spec.hasSettings (spec : Spec) : Bool :=
  spec.test.isSome || spec.interval.isSome || spec.timeout.isSome || spec.startPeriod.isSome ||
    spec.retries.isSome

/-- The check of a definition. -/
def ofSpec (spec : Spec) : Except Fault Healthcheck :=
  if spec.disable then
    if spec.hasSettings then .error (.malformed "healthcheck" .disabledHealthcheckSettings)
    else .ok disabled
  else
    match spec.test with
    | none => .error (.missing "healthcheck" "test")
    | some test => do
      let check ← running test
      let check ← setIfSome spec.interval withInterval check
      let check ← setIfSome spec.timeout withTimeout check
      let check ← setIfSome spec.startPeriod withStartPeriod check
      setIfSome spec.retries withRetries check

/-- The words of the test: `CMD` and the words of a command, or `CMD-SHELL` and a line. -/
def testWords (check : Healthcheck) : Option (List String) :=
  check.test.map fun test =>
    match test with
    | .exec words => "CMD" :: words
    | .shell line => ["CMD-SHELL", line]

end Healthcheck

end ContainerStack
