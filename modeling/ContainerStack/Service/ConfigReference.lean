import ContainerStack.Service.FileMode
import ContainerStack.Validation

/-!
**Config files mounted into services.**

A reference names a config of the stack, and may set the path in the container and the access mode.
-/

namespace ContainerStack

/-- A config of the stack that a service mounts. -/
structure ConfigReference where
  source : String
  target : Option String
  mode : Option FileMode
  deriving DecidableEq, Repr

namespace ConfigReference

/-- A reference as a definition gives it. -/
structure Spec where
  source : String
  target : Option String
  mode : Option FileMode.Spec
  deriving DecidableEq, Repr

/-- The reference of a definition. -/
def ofSpec (spec : Spec) : Except Fault ConfigReference := do
  if let some target := spec.target then Validation.containerPath "config target" target
  return ⟨spec.source, spec.target, spec.mode.map FileMode.ofSpec⟩

end ConfigReference

end ContainerStack
