import ContainerStack.Fault

/-!
**Restart policies of services.**

A policy is a word; only `on-failure` takes a number of attempts, which lies between 1 and 10 and is
5 if it is not given.
-/

namespace ContainerStack

/-- When a stopped service is started again. -/
inductive RestartPolicy where
  | always
  | unlessStopped
  | never
  | onFailure (times : Nat)
  deriving DecidableEq, Repr

namespace RestartPolicy

/-- A policy as a definition gives it. -/
structure Spec where
  policy : String
  times : Option Nat
  deriving DecidableEq, Repr

/-- The number of attempts of `on-failure` where none is given. -/
def defaultTimes : Nat := 5

/-- The policy `on-failure` with a number of attempts. -/
def onFailureWith (times : Option Nat) : Except Fault RestartPolicy :=
  let attempts := times.getD defaultTimes
  if 1 ≤ attempts ∧ attempts ≤ 10 then .ok (onFailure attempts)
  else .error (.outOfRange "restart times" (.restartTimes attempts))

/-- A policy that takes no number of attempts. -/
def withoutTimes (policy : RestartPolicy) (written : String) (times : Option Nat) :
    Except Fault RestartPolicy :=
  if times.isSome then .error (.malformed "restart" (.timesWithoutOnFailure written))
  else .ok policy

/-- The policy of a word and an optional number of attempts. -/
def ofSpec (spec : Spec) : Except Fault RestartPolicy :=
  match spec.policy with
  | "always" => withoutTimes always spec.policy spec.times
  | "unless-stopped" => withoutTimes unlessStopped spec.policy spec.times
  | "no" => withoutTimes never spec.policy spec.times
  | "on-failure" => onFailureWith spec.times
  | other =>
    .error (.malformed "restart"
      (.unknownWord "policy" other ["always", "unless-stopped", "no", "on-failure"]))

/-- The word for a policy. -/
def word : RestartPolicy → String
  | always => "always"
  | unlessStopped => "unless-stopped"
  | never => "no"
  | onFailure _ => "on-failure"

/-- The word for a policy with its number of attempts. -/
def text : RestartPolicy → String
  | onFailure times => s!"on-failure:{times}"
  | policy => policy.word

end RestartPolicy

end ContainerStack
