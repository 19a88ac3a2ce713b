import ContainerStack.External

/-!
**Volumes mounted into services.**

A mount puts a nameless volume, a volume of the stack or a directory of the host at a path of the
container. A volume of the stack is mounted in its own access mode unless the mount sets one.
-/

namespace ContainerStack

/-- A volume or directory at a path of the container. -/
inductive Mount where
  | anonymous (containerPath : String)
  | named (name containerPath : String) (mode : Option AccessMode)
  | bind (hostPath containerPath : String) (mode : AccessMode)
  deriving DecidableEq, Repr

namespace Mount

/-- A mount as a definition gives it; the kind follows from which of name and host path is there. -/
structure Spec where
  name : Option String
  hostPath : Option String
  containerPath : Option String
  readOnly : Option Bool
  deriving DecidableEq, Repr

/-- The path of the container. -/
def containerPath : Mount → String
  | anonymous path => path
  | named _ path _ => path
  | bind _ path _ => path

/-- The mount of a definition. -/
def ofSpec (spec : Spec) : Except Fault Mount :=
  match spec.containerPath with
  | none => .error (.missing "service volume" "container_path")
  | some path =>
    match spec.name, spec.hostPath with
    | some _, some _ => .error (.malformed "service volume" .namedBind)
    | some name, none => .ok (named name path (spec.readOnly.map AccessMode.ofReadOnly))
    | none, some hostPath =>
      .ok (bind hostPath path (AccessMode.ofReadOnly (spec.readOnly.getD false)))
    | none, none =>
      if spec.readOnly.isSome then .error (.malformed "service volume" .anonymousReadOnly)
      else .ok (anonymous path)

end Mount

end ContainerStack
