import ContainerStack.Text.Pieces
import ContainerStack.Validation

/-!
**How services reach the network, and on which others they wait.**

A network mode replaces the joining of networks; it may point at another service of the stack or at
a container. A dependency may name the condition in which the other service has to be.
-/

namespace ContainerStack

/-- How a service reaches the network when it joins none. -/
inductive NetworkMode where
  | bridge
  | host
  | none
  /-- The network of another service of the stack. -/
  | service (name : String)
  /-- The network of a container outside the stack. -/
  | container (id : String)
  deriving DecidableEq, Repr

namespace NetworkMode

/-- The mode as it is written. -/
def text : NetworkMode → String
  | bridge => "bridge"
  | host => "host"
  | none => "none"
  | service name => "service:" ++ name
  | container id => "container:" ++ id

/-- The mode of a written word. -/
def ofText (value : String) : Except Fault NetworkMode :=
  match value with
  | "bridge" => .ok bridge
  | "host" => .ok host
  | "none" => .ok none
  | other =>
    match Text.after? "service:" other, Text.after? "container:" other with
    | some name, _ => do
      Validation.token "network_mode service" name
      return service name
    | Option.none, some id => do
      Validation.token "network_mode container" id
      return container id
    | Option.none, Option.none =>
      .error (.malformed "network_mode" (.unknownWord "mode" other []))

/-- The service that a mode points at. -/
def target? : NetworkMode → Option String
  | service name => some name
  | _ => Option.none

end NetworkMode

/-- The condition in which another service has to be. -/
inductive DependencyCondition where
  | started
  | healthy
  | completed
  deriving DecidableEq, Repr

namespace DependencyCondition

/-- The word for a condition. -/
def word : DependencyCondition → String
  | started => "service_started"
  | healthy => "service_healthy"
  | completed => "service_completed_successfully"

/-- The condition of a word. -/
def ofWord (value : String) : Except Fault DependencyCondition :=
  match value with
  | "service_started" => .ok started
  | "service_healthy" => .ok healthy
  | "service_completed_successfully" => .ok completed
  | other => .error (.malformed "depends_on condition" (.unknownWord "condition" other []))

end DependencyCondition

/-- A dependency as a definition gives it. -/
structure Dependency.Spec where
  service : String
  condition : Option String
  deriving DecidableEq, Repr

end ContainerStack
