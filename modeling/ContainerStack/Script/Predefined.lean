import ContainerStack.Validation

/-!
**Predefined commands for package managers.**

Pinning a package manager to a version comes before the commands of a stage, and installing the
dependencies after them.
-/

namespace ContainerStack.Script

/-- The package managers that are known. -/
inductive PackageManager where
  | npm
  | yarn
  | pnpm
  deriving DecidableEq, Repr

namespace PackageManager

/-- The word for a package manager. -/
def word : PackageManager → String
  | npm => "npm"
  | yarn => "yarn"
  | pnpm => "pnpm"

/-- All package managers. -/
def all : List PackageManager := [npm, yarn, pnpm]

/-- The command that installs what the lock file lists. -/
def installCommand : PackageManager → String
  | npm => "npm ci --no-audit --no-fund"
  | yarn => "yarn install --frozen-lockfile --non-interactive"
  | pnpm => "pnpm install --frozen-lockfile"

/-- The option that leaves out what only development needs. -/
def productionOption : PackageManager → String
  | npm => "--omit=dev"
  | yarn => "--production"
  | pnpm => "--prod"

end PackageManager

/-- A predefined command. -/
inductive Predefined where
  | pinVersion (manager : PackageManager) (version : String)
  | install (manager : PackageManager) (production : Bool)
  deriving DecidableEq, Repr

/-- The kinds of predefined commands, of which a stage has each at most once. -/
inductive PredefinedKind where
  | pinVersion
  | install
  deriving DecidableEq, Repr

/-- When a predefined command runs. -/
inductive PredefinedPhase where
  | beforeCommands
  | afterCommands
  deriving DecidableEq, Repr

/-- The word for a kind of predefined command. -/
def PredefinedKind.word : PredefinedKind → String
  | .pinVersion => "pin_version"
  | .install => "install"

namespace Predefined

/-- The kind of a predefined command. -/
def kind : Predefined → PredefinedKind
  | pinVersion _ _ => .pinVersion
  | install _ _ => .install

/-- When a predefined command runs, seen from the commands of the stage. -/
def phase : Predefined → PredefinedPhase
  | pinVersion _ _ => .beforeCommands
  | install _ _ => .afterCommands

/-- Accepts predefined commands whose version, if any, is one. -/
def validate : Predefined → Except Fault Unit
  | pinVersion _ version => do
    Validation.ensure (version != "") (.missing "pin_version macro" "version")
    Validation.ensure (isVersion version)
      (.malformed "pin_version macro" (.isNot version .version))
  | install _ _ => .ok ()

/-- The command that is run. -/
def command : Predefined → String
  | pinVersion .npm version => "npm install --global npm@" ++ version
  | pinVersion manager version =>
    "corepack enable && corepack prepare " ++ manager.word ++ "@" ++ version ++ " --activate"
  | install manager true => manager.installCommand ++ " " ++ manager.productionOption
  | install manager false => manager.installCommand

end Predefined

end ContainerStack.Script
