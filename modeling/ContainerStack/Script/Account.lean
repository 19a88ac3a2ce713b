import ContainerStack.Script.Instruction

/-!
**Accounts that a stage switches to.**

An account has a user and may have a group. On request the group and the user are created where they
are missing and the user is put into the group; the tools for that differ between two families of
base images, so the commands come in two branches behind a test.

* `Account.bootstrap`: the instruction that runs the requested checks.
* `Account.switch`: the instruction that switches to the account.
-/

namespace ContainerStack.Script

/-- A user with an optional group, and the checks that are requested. -/
structure Account where
  name : String
  group : Option String
  ensuresGroup : Bool
  ensuresUser : Bool
  assignsGroup : Bool
  deriving DecidableEq, Repr

namespace Account

/-- An account as a definition gives it. -/
structure Spec where
  name : String
  group : Option String
  ensuresGroup : Bool
  ensuresUser : Bool
  assignsGroup : Bool
  deriving DecidableEq, Repr

/-- The account of a user, without group and checks. -/
def ofName (name : String) : Except Fault Account := do
  Validation.account "user" name
  return ⟨name, none, false, false, false⟩

/-- Sets the group. -/
def withGroup (account : Account) (group : String) : Except Fault Account := do
  Validation.account "group" group
  return { account with group := some group }

/-- Accepts accounts with a group. -/
def requireGroup (account : Account) (request : String) : Except Fault Unit :=
  Validation.ensure account.group.isSome
    (.missing ("user '" ++ account.name ++ "' " ++ request) "group")

/-- Requests that the group is created where it is missing. -/
def ensureGroup (account : Account) : Except Fault Account := do
  account.requireGroup "ensure_group"
  return { account with ensuresGroup := true }

/-- Requests that the user is created where it is missing. -/
def ensureUser (account : Account) : Account := { account with ensuresUser := true }

/-- Requests that the user is put into the group. -/
def assignGroup (account : Account) : Except Fault Account := do
  account.requireGroup "assign_group"
  return { account with assignsGroup := true }

/-- The account of a definition. -/
def ofSpec (spec : Spec) : Except Fault Account := do
  let account ← ofName spec.name
  let account ← match spec.group with
    | some group => account.withGroup group
    | none => .ok account
  let account ← if spec.ensuresGroup then account.ensureGroup else .ok account
  let account := if spec.ensuresUser then account.ensureUser else account
  if spec.assignsGroup then account.assignGroup else return account

/-- Whether a check is requested. -/
def needsDetection (account : Account) : Bool :=
  account.ensuresGroup || account.ensuresUser || account.assignsGroup

/-- The user, with the group if there is one, as the owner of files. -/
def owner (account : Account) : String :=
  match account.group with
  | some group => account.name ++ ":" ++ group
  | none => account.name

/-- The instruction that switches to the account. -/
def switch (account : Account) : Instruction := .user account.name account.group

/-- The test whether a group exists. -/
def groupExists (group : String) : String := "grep -q '^" ++ group ++ ":' /etc/group"

/-- The test whether a user exists. -/
def userExists (user : String) : String := "id -u " ++ user ++ " >/dev/null 2>&1"

/-- The commands of one family of tools: for a missing group, for a missing user with its group, and
for putting a user into a group. -/
structure Tools where
  createGroup : String → String
  createUser : String → Option String → String
  assign : String → String → String

/-- The tools of images with the package manager `apk`. -/
def alpineTools : Tools where
  createGroup group := "addgroup -S " ++ group
  createUser user
    | some group => "adduser -S -D -G " ++ group ++ " " ++ user
    | none => "adduser -S -D " ++ user
  assign user group := "addgroup " ++ user ++ " " ++ group

/-- The tools of all other images. -/
def shadowTools : Tools where
  createGroup group := "groupadd -r " ++ group
  createUser user
    | some group => "useradd -r -m -g " ++ group ++ " " ++ user
    | none => "useradd -r -m " ++ user
  assign user group := "usermod -aG " ++ group ++ " " ++ user

/-- The steps that the requested checks take with a family of tools. -/
def steps (account : Account) (tools : Tools) : List String :=
  (match account.ensuresGroup, account.group with
    | true, some group => ["(" ++ groupExists group ++ " || " ++ tools.createGroup group ++ ")"]
    | _, _ => []) ++
  (if account.ensuresUser then
    ["(" ++ userExists account.name ++ " || " ++ tools.createUser account.name account.group ++ ")"]
  else []) ++
  (match account.assignsGroup, account.group with
    | true, some group => [tools.assign account.name group]
    | _, _ => [])

/-- The lines of a branch: each step but the last is joined to the next one, and the last ends. -/
def branchLines : List String → List String
  | [] => []
  | [step] => ["  " ++ step ++ ";"]
  | step :: next :: rest => ("  " ++ step ++ " &&") :: branchLines (next :: rest)

/-- The instruction that runs the requested checks, if there are any. -/
def bootstrap (account : Account) : Option Instruction :=
  if account.needsDetection then
    some (.run (["if command -v apk >/dev/null 2>&1; then"] ++
      branchLines (account.steps alpineTools) ++ ["else"] ++
      branchLines (account.steps shadowTools) ++ ["fi"]))
  else none

end Account

end ContainerStack.Script
