import ContainerStack.Validation

/-!
**Ports of services.**

A port is published on the host, under the same number or another one, or it is open to other
services only. Port numbers lie between 1 and 65535.
-/

namespace ContainerStack

/-- A port of a service. -/
structure PortMapping where
  internal : Nat
  external : Option Nat
  isInternalOnly : Bool
  deriving DecidableEq, Repr

namespace PortMapping

/-- A port as a definition gives it. -/
structure Spec where
  internal : Nat
  external : Option Nat
  isInternalOnly : Bool
  deriving DecidableEq, Repr

/-- Accepts numbers between 1 and 65535. -/
def checkNumber (subject : String) (number : Nat) : Except Fault Unit :=
  Validation.ensure (1 ≤ number && number ≤ 65535) (.outOfRange subject (.port number))

/-- The port of a definition. -/
def ofSpec (spec : Spec) : Except Fault PortMapping := do
  if spec.isInternalOnly && spec.external.isSome then
    throw (.malformed "port" (.publishedInternalOnly spec.internal))
  checkNumber "internal port" spec.internal
  if let some number := spec.external then checkNumber "external port" number
  return ⟨spec.internal, spec.external, spec.isInternalOnly⟩

/-- The number on the host, if the port is published. -/
def hostPort (port : PortMapping) : Option Nat :=
  if port.isInternalOnly then none else some (port.external.getD port.internal)

end PortMapping

end ContainerStack
