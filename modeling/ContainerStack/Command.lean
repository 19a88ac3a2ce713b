import ContainerStack.Validation

/-!
**Commands.**

A command is a line for a shell or a list of words that is run as it stands. It is empty if the line
or the first word is blank, or if there is no word.
-/

namespace ContainerStack

/-- A line for a shell, or a program with its arguments. -/
inductive Command where
  | shell (line : String)
  | exec (words : List String)
  deriving DecidableEq, Repr

namespace Command

/-- Whether there is nothing to run. -/
def isEmpty : Command → Bool
  | shell line => Text.isBlankText line
  | exec [] => true
  | exec (program :: _) => Text.isBlankText program

/-- Accepts commands that are not empty. -/
def validate (command : Command) (subject : String) : Except Fault Unit :=
  Validation.ensure (!command.isEmpty) (.missing subject "command")

end Command

end ContainerStack
