/-!
**Access modes of mounted files.**

A mode says for the owner, the group and all others whether they may read, write and execute. It is
written as a zero and three octal digits.
-/

namespace ContainerStack

/-- One thing that may be done with a file. -/
inductive Permission where
  | read
  | write
  | exec
  deriving DecidableEq, Repr

namespace Permission

/-- The word for a permission. -/
def word : Permission → String
  | read => "read"
  | write => "write"
  | exec => "exec"

/-- All permissions. -/
def all : List Permission := [read, write, exec]

end Permission

/-- What one class of users may do with a file. -/
structure Permissions where
  read : Bool
  write : Bool
  exec : Bool
  deriving DecidableEq, Repr

namespace Permissions

/-- The permissions of a list; repeats do not count. -/
def ofList (granted : List Permission) : Permissions :=
  ⟨granted.contains .read, granted.contains .write, granted.contains .exec⟩

/-- The octal digit: four for reading, two for writing and one for executing. -/
def digit (permissions : Permissions) : Nat :=
  (if permissions.read then 4 else 0) + (if permissions.write then 2 else 0) +
    (if permissions.exec then 1 else 0)

/-- The letters of what is granted, with a dash for what is not. -/
def letters (permissions : Permissions) : String :=
  String.ofList
    [if permissions.read then 'r' else '-', if permissions.write then 'w' else '-',
      if permissions.exec then 'x' else '-']

end Permissions

/-- What the owner, the group and all others may do with a file. -/
structure FileMode where
  owner : Permissions
  group : Permissions
  others : Permissions
  deriving DecidableEq, Repr

namespace FileMode

/-- A mode as a definition gives it. -/
structure Spec where
  owner : List Permission
  group : List Permission
  others : List Permission
  deriving DecidableEq, Repr

/-- The mode of a definition. -/
def ofSpec (spec : Spec) : FileMode :=
  ⟨.ofList spec.owner, .ofList spec.group, .ofList spec.others⟩

/-- The mode as a zero and three octal digits. -/
def octal (mode : FileMode) : String :=
  let owner := mode.owner.digit
  let group := mode.group.digit
  let others := mode.others.digit
  s!"0{owner}{group}{others}"

/-- The mode in letters. -/
def description (mode : FileMode) : String :=
  let owner := mode.owner.letters
  let group := mode.group.letters
  let others := mode.others.letters
  s!"owner={owner} group={group} others={others}"

end FileMode

end ContainerStack
