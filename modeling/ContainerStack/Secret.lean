import ContainerStack.Lookup
import ContainerStack.Registry
import ContainerStack.Validation

/-!
**Secrets and config files.**

A secret is read from a file or is managed outside the stack; a config is read from a file. Files
have to exist.
-/

namespace ContainerStack

/-- Where a secret comes from. -/
inductive SecretSource where
  | file (path : String)
  | external
  deriving DecidableEq, Repr

/-- A secret of a stack. -/
structure Secret where
  name : String
  source : SecretSource
  deriving DecidableEq, Repr

instance : Named Secret where
  kind := .secret
  name := Secret.name

namespace Secret

/-- A secret as a definition gives it. -/
structure Spec where
  file : Option String
  isExternal : Option Bool
  deriving DecidableEq, Repr

/-- How faults call a secret. -/
def ownerOf (name : String) : String := s!"secret '{name}'"

/-- The secret of a file. -/
def ofFile (name path : String) (lookup : EntityLookup) : Except Fault Secret := do
  Validation.name .secret name
  Validation.present (ownerOf name) "file" path
  Validation.ensure (lookup.pathExists path) (.dangling (ownerOf name) .file path)
  return ⟨name, .file path⟩

/-- The secret that is managed outside the stack. -/
def external (name : String) : Except Fault Secret := do
  Validation.name .secret name
  return ⟨name, .external⟩

/-- The secret of a definition, which gives either a file or the mark. -/
def ofSpec (name : String) (spec : Spec) (lookup : EntityLookup) : Except Fault Secret :=
  match spec.file, spec.isExternal.getD false with
  | some _, true => .error (.malformed (ownerOf name) .fileBesideExternal)
  | some path, false => ofFile name path lookup
  | none, true => external name
  | none, false => .error (.missing (ownerOf name) "file or external")

end Secret

/-- A config of a stack. -/
structure ConfigFile where
  name : String
  file : String
  deriving DecidableEq, Repr

instance : Named ConfigFile where
  kind := .config
  name := ConfigFile.name

namespace ConfigFile

/-- A config as a definition gives it. -/
structure Spec where
  file : Option String
  deriving DecidableEq, Repr

/-- How faults call a config. -/
def ownerOf (name : String) : String := s!"config '{name}'"

/-- The config of a file. -/
def ofFile (name file : String) (lookup : EntityLookup) : Except Fault ConfigFile := do
  Validation.name .config name
  Validation.present (ownerOf name) "file" file
  Validation.ensure (lookup.pathExists file) (.dangling (ownerOf name) .file file)
  return ⟨name, file⟩

/-- The config of a definition. -/
def ofSpec (name : String) (spec : Spec) (lookup : EntityLookup) : Except Fault ConfigFile :=
  match spec.file with
  | none => .error (.missing (ownerOf name) "file")
  | some file => ofFile name file lookup

end ConfigFile

end ContainerStack
