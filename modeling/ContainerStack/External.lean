import ContainerStack.Validation

/-!
**Resources managed outside the stack, and scopes.**

A network or volume can be marked as external, under its own name or under another one.
-/

namespace ContainerStack

/-- Whether a resource is managed outside the stack, and under which other name. -/
inductive External where
  | flag (isExternal : Bool)
  | named (name : String)
  deriving DecidableEq, Repr

namespace External

/-- Whether the resource is managed outside the stack at all. -/
def isExternal : External → Bool
  | flag isExternal => isExternal
  | named _ => true

/-- Accepts marks whose other name, if any, is not blank. -/
def validate : External → Except Fault Unit
  | flag _ => .ok ()
  | named name => Validation.present "external" "name" name

end External

/-- How far a network or volume is visible. -/
inductive Scope where
  | onHost
  | everywhere
  | swarm
  deriving DecidableEq, Repr

namespace Scope

/-- The word for a scope. -/
def word : Scope → String
  | onHost => "local"
  | everywhere => "global"
  | swarm => "swarm"

/-- The scope of a word. -/
def ofWord (value : String) : Except Fault Scope :=
  match value with
  | "local" => .ok onHost
  | "global" => .ok everywhere
  | "swarm" => .ok swarm
  | other => .error (.malformed "scope" (.unknownWord "scope" other ["local", "global", "swarm"]))

end Scope

/-- How a mount or volume may be used. -/
inductive AccessMode where
  | readWrite
  | readOnly
  deriving DecidableEq, Repr

namespace AccessMode

/-- The word for an access mode. -/
def word : AccessMode → String
  | readWrite => "rw"
  | readOnly => "ro"

/-- The access mode of a word. -/
def ofWord (value : String) : Except Fault AccessMode :=
  match value with
  | "rw" => .ok readWrite
  | "ro" => .ok readOnly
  | other => .error (.malformed "access mode" (.unknownWord "mode" other ["rw", "ro"]))

/-- The access mode that a read-only flag stands for. -/
def ofReadOnly (isReadOnly : Bool) : AccessMode := if isReadOnly then readOnly else readWrite

end AccessMode

end ContainerStack
