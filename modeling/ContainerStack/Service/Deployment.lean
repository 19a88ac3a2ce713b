import ContainerStack.Decimal
import ContainerStack.Edit
import ContainerStack.OrderedMap
import ContainerStack.Text.Pieces
import ContainerStack.Validation

/-!
**Deployment of services on a cluster.**

A deployment says how many copies of a service run, what they may use, when they are started again,
and on which machines they run.

* `Amounts`, `Resources`: processors and memory, as limits and as reservations.
* `TaskRestart`: when a stopped copy is started again.
* `Deployment`: the settings, with one edit for each.
* `Deployment.ofSpec`: the deployment of a definition.
-/

namespace ContainerStack

/-- How the number of copies is chosen. -/
inductive DeployMode where
  | replicated
  /-- One copy on every machine. -/
  | onEveryNode
  deriving DecidableEq, Repr

namespace DeployMode

/-- The word for a mode. -/
def word : DeployMode → String
  | replicated => "replicated"
  | onEveryNode => "global"

/-- The mode of a word. -/
def ofWord (value : String) : Except Fault DeployMode :=
  match value with
  | "replicated" => .ok replicated
  | "global" => .ok onEveryNode
  | other =>
    .error (.malformed "deploy mode" (.unknownWord "mode" other ["replicated", "global"]))

end DeployMode

/-- An amount of processors and of memory, as written; either may be missing. -/
structure Amounts where
  cpus : Option String
  memory : Option String
  deriving DecidableEq, Repr

namespace Amounts

/-- No amount at all. -/
def none : Amounts := ⟨Option.none, Option.none⟩

/-- Sets the number of processors, a finite decimal number above zero. -/
def withCpus (amounts : Amounts) (cpus : String) : Except Fault Amounts :=
  match Decimal.ofString? cpus with
  | Option.none => .error (.malformed "cpus" (.isNot cpus .decimalNumber))
  | some number =>
    if number.isPositiveFinite then .ok { amounts with cpus := some cpus }
    else .error (.outOfRange "cpus" (.notAboveZero cpus))

/-- Sets the amount of memory. -/
def withMemory (amounts : Amounts) (memory : String) : Except Fault Amounts := do
  Validation.byteSize "memory" memory
  return { amounts with memory := some memory }

/-- The amounts that are given, checked; processors come first. -/
def checked (given : Amounts) : Except Fault Amounts := do
  let amounts ← match given.cpus with
    | some cpus => none.withCpus cpus
    | Option.none => .ok none
  match given.memory with
  | some memory => amounts.withMemory memory
  | Option.none => return amounts

/-- Whether neither amount is given. -/
def isEmpty (amounts : Amounts) : Bool := amounts.cpus.isNone && amounts.memory.isNone

end Amounts

/-- What a copy may use at most, and what is kept free for it. -/
structure Resources where
  limits : Option Amounts
  reservations : Option Amounts
  deriving DecidableEq, Repr

namespace Resources

/-- The amounts that are given, checked; limits come first. -/
def checked (given : Resources) : Except Fault Resources := do
  let limits ← given.limits.mapM Amounts.checked
  let reservations ← given.reservations.mapM Amounts.checked
  return ⟨limits, reservations⟩

/-- Whether no amount is given. -/
def isEmpty (resources : Resources) : Bool :=
  resources.limits.all Amounts.isEmpty && resources.reservations.all Amounts.isEmpty

end Resources

/-- After which end a copy is started again. -/
inductive RestartCondition where
  | never
  | onFailure
  | any
  deriving DecidableEq, Repr

namespace RestartCondition

/-- The word for a condition. -/
def word : RestartCondition → String
  | never => "none"
  | onFailure => "on-failure"
  | any => "any"

/-- The condition of a word. -/
def ofWord (value : String) : Except Fault RestartCondition :=
  match value with
  | "none" => .ok never
  | "on-failure" => .ok onFailure
  | "any" => .ok any
  | other =>
    .error (.malformed "deploy restart condition"
      (.unknownWord "condition" other ["none", "on-failure", "any"]))

end RestartCondition

/-- When a stopped copy is started again. -/
structure TaskRestart where
  condition : Option RestartCondition
  delay : Option String
  maxAttempts : Option Nat
  window : Option String
  deriving DecidableEq, Repr

namespace TaskRestart

/-- A policy as a definition gives it. -/
structure Spec where
  condition : Option String
  delay : Option String
  maxAttempts : Option Nat
  window : Option String
  deriving DecidableEq, Repr

/-- Accepts a delay and a window that are durations. -/
def checkTimes (delay window : Option String) : Except Fault Unit := do
  if let some text := delay then Validation.duration "deploy restart delay" text
  if let some text := window then Validation.duration "deploy restart window" text

/-- The policy of a definition; the times are checked before the condition is read. -/
def ofSpec (spec : Spec) : Except Fault TaskRestart := do
  checkTimes spec.delay spec.window
  let condition ← spec.condition.mapM RestartCondition.ofWord
  return ⟨condition, spec.delay, spec.maxAttempts, spec.window⟩

/-- Whether nothing is set. -/
def isEmpty (policy : TaskRestart) : Bool :=
  policy.condition.isNone && policy.delay.isNone && policy.maxAttempts.isNone &&
    policy.window.isNone

end TaskRestart

/-- The deployment settings of a service. -/
structure Deployment where
  mode : Option DeployMode
  replicas : Option Nat
  resources : Option Resources
  restartPolicy : Option TaskRestart
  placement : List String
  labels : OrderedMap String
  deriving DecidableEq

namespace Deployment

/-- A deployment as a definition gives it. -/
structure Spec where
  mode : Option String
  replicas : Option Nat
  resources : Option Resources
  restartPolicy : Option TaskRestart.Spec
  placement : List String
  labels : OrderedMap String
  deriving DecidableEq

/-- The deployment that sets nothing. -/
def empty : Deployment := ⟨none, none, none, none, [], .empty⟩

/-- Sets the mode; copies on every machine cannot be counted. -/
def setMode (mode : DeployMode) : Edit Deployment Unit := do
  let deployment ← get
  if mode = .onEveryNode ∧ deployment.replicas.isSome then
    throw (.malformed "deploy" .replicasInGlobalMode)
  set { deployment with mode := some mode }

/-- Sets the number of copies. -/
def setReplicas (replicas : Nat) : Edit Deployment Unit := do
  let deployment ← get
  if deployment.mode = some .onEveryNode then
    throw (.malformed "deploy" .replicasInGlobalMode)
  set { deployment with replicas := some replicas }

/-- Sets the resources. -/
def setResources (resources : Resources) : Edit Deployment Unit :=
  modify fun deployment => { deployment with resources := some resources }

/-- Sets when a stopped copy is started again. -/
def setRestartPolicy (policy : TaskRestart) : Edit Deployment Unit := do
  TaskRestart.checkTimes policy.delay policy.window
  modify fun deployment => { deployment with restartPolicy := some policy }

/-- Adds a condition on the machines, which compares with `==` or `!=`. -/
def addConstraint (constraint : String) : Edit Deployment Unit := do
  Validation.present "deploy placement" "constraint" constraint
  Validation.ensure (Text.holds "==" constraint || Text.holds "!=" constraint)
    (.malformed "deploy placement" (.breaks constraint .comparison))
  modify fun deployment => { deployment with placement := deployment.placement ++ [constraint] }

/-- Adds a label; the last value of a key wins. -/
def addLabel (key value : String) : Edit Deployment Unit := do
  Validation.labelKey key
  modify fun deployment => { deployment with labels := deployment.labels.insert key value }

/-- Applies every setting of a definition. -/
def applySpec (spec : Spec) : Edit Deployment Unit := do
  spec.mode.forM fun mode => do setMode (← DeployMode.ofWord mode)
  spec.replicas.forM setReplicas
  spec.resources.forM fun resources => do setResources (← resources.checked)
  spec.restartPolicy.forM fun policy => do
    let checked ← TaskRestart.ofSpec policy
    modify fun deployment => { deployment with restartPolicy := some checked }
  spec.placement.forM addConstraint
  spec.labels.toList.forM fun (key, value) => addLabel key value

/-- The deployment of a definition. -/
def ofSpec (spec : Spec) : Except Fault Deployment :=
  ((applySpec spec).onCopy empty).map Prod.snd

/-- The resources, unless they set nothing. -/
def shownResources (deployment : Deployment) : Option Resources :=
  deployment.resources.filter fun resources => !resources.isEmpty

/-- The restart policy, unless it sets nothing. -/
def shownRestartPolicy (deployment : Deployment) : Option TaskRestart :=
  deployment.restartPolicy.filter fun policy => !policy.isEmpty

/-- Whether there is nothing to write. -/
def isEmpty (deployment : Deployment) : Bool :=
  deployment.mode.isNone && deployment.replicas.isNone && deployment.shownResources.isNone &&
    deployment.shownRestartPolicy.isNone && deployment.placement.isEmpty &&
    deployment.labels.isEmpty

end Deployment

end ContainerStack
