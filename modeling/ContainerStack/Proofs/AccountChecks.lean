import ContainerStack.Proofs.Changes
import ContainerStack.Script.Account

/-!
**The checks of an account are those that were requested.**

An account is named and then changed by calls, any of which may be refused. A check of the group can
be requested only after the group was given, so a check that was requested always has a step, and
neither branch of the commands is empty.

* `Account.Call`, `Account.ofCalls`: the calls and what they make of a name.
* `Account.Follows`: what an account tells of the calls that made it; `Follows.change` for one call,
  `follows_ofCalls` for all of them.
* `Account.Check`, `Account.requested`: the checks that some calls request.
* `Account.Takes`: what a step does for a check; `steps_take`: every check that is set takes one
  step in each branch.
* `Account.Joined`: lines that run some steps in a row; `joined_branchLines`.
* `Account.checkInstructions`: the instruction for the checks that are set, if there are any.
  `bootstrap_toList`: that is what is written.
* `bootstrap_checks`: the lines of the instruction, as the calls decide them.
-/

namespace ContainerStack.Script

namespace Account

/-! ### Calls -/

/-- A call that changes an account. -/
inductive Call where
  | group (name : String)
  | ensureGroup
  | ensureUser
  | assignGroup
  deriving DecidableEq, Repr

/-- What a call makes of an account. -/
def Call.change (account : Account) : Call → Except Fault Account
  | .group name => account.withGroup name
  | .ensureGroup => account.ensureGroup
  | .ensureUser => .ok account.ensureUser
  | .assignGroup => account.assignGroup

/-- The account of a user after some calls, up to the first that is refused. -/
def ofCalls (name : String) (calls : List Call) : Except Fault Account := do
  let account ← ofName name
  calls.foldlM Call.change account

/-- A check that can be requested. -/
inductive Check where
  | group
  | user
  | membership
  deriving DecidableEq, Repr

/-- The call that requests a check. -/
def Check.call : Check → Call
  | .group => .ensureGroup
  | .user => .ensureUser
  | .membership => .assignGroup

/-- Whether an account makes a check. -/
def Check.isSet (account : Account) : Check → Bool
  | .group => account.ensuresGroup
  | .user => account.ensuresUser
  | .membership => account.assignsGroup

/-- The checks of which a condition holds: of the group, of the user and of the membership, in this
order. -/
def Check.those (holds : Check → Bool) : List Check := [group, user, membership].filter holds

/-- The checks that some calls request, whatever the order of the calls was. -/
def requested (calls : List Call) : List Check := Check.those fun check => check.call ∈ calls

/-- **What an account tells of the calls that made it**: whether a group was given, and which checks
were requested; those of the group only with a group. -/
structure Follows (name : String) (calls : List Call) (account : Account) : Prop where
  named : account.name = name
  group : account.group.isSome = true ↔ ∃ group, Call.group group ∈ calls
  checks : ∀ check : Check, check.isSet account = true ↔ check.call ∈ calls
  grouped : ∀ check : Check, check ≠ .user → check.isSet account = true →
    account.group.isSome = true

section Calls

variable {name : String} {calls : List Call} {call : Call} {check : Check} {account next : Account}

theorem Check.call_inj {other : Check} : check.call = other.call ↔ check = other := by
  cases check <;> cases other <;> decide

theorem Check.those_isSet (account : Account) : those (isSet account) =
    (if account.ensuresGroup then [group] else []) ++
      (if account.ensuresUser then [user] else []) ++
      (if account.assignsGroup then [membership] else []) := by
  obtain ⟨_, _, ensuresGroup, ensuresUser, assignsGroup⟩ := account
  cases ensuresGroup <;> cases ensuresUser <;> cases assignsGroup <;> rfl

theorem follows_ofName (made : ofName name = .ok account) : Follows name [] account := by
  obtain ⟨_, _, same⟩ := Edit.bind_eq_ok.mp made
  cases same
  refine ⟨rfl, by simp, fun check => ?_, fun check => ?_⟩
  · cases check <;> simp [Check.isSet]
  · cases check <;> simp [Check.isSet]

theorem requireGroup_eq_ok {request : String} :
    account.requireGroup request = .ok () ↔ account.group.isSome = true :=
  Validation.ensure_eq_ok

/-- A group that is given takes the place of the one before it. -/
theorem Follows.given (follows : Follows name calls account) (group : String) :
    Follows name (calls ++ [.group group]) { account with group := some group } where
  named := follows.named
  group := ⟨fun _ => ⟨group, by simp⟩, fun _ => rfl⟩
  checks check := by
    have before := follows.checks check
    cases check <;> simpa [Check.isSet, Check.call] using before
  grouped _ _ _ := rfl

/-- A check that is requested is set beside those before it. -/
theorem Follows.request (follows : Follows name calls account) (sameName : next.name = account.name)
    (sameGroup : next.group = account.group)
    (set : ∀ other : Check, other.isSet next = (other.isSet account || other == check))
    (grouped : check ≠ .user → account.group.isSome = true) :
    Follows name (calls ++ [check.call]) next where
  named := sameName.trans follows.named
  group := by
    rw [sameGroup, follows.group]
    cases check <;> simp [Check.call]
  checks other := by
    rw [set, Bool.or_eq_true, beq_iff_eq, follows.checks, List.mem_append, List.mem_singleton,
      Check.call_inj]
  grouped other notUser isSet := by
    rw [set, Bool.or_eq_true, beq_iff_eq] at isSet
    rw [sameGroup]
    rcases isSet with before | rfl
    · exact follows.grouped other notUser before
    · exact grouped notUser

/-- **A call that is accepted is told of from then on**, beside the calls before it. -/
theorem Follows.change (follows : Follows name calls account)
    (accepted : call.change account = .ok next) : Follows name (calls ++ [call]) next := by
  cases call with
  | group group =>
    obtain ⟨_, _, same⟩ := Edit.bind_eq_ok.mp accepted
    cases same
    exact follows.given group
  | ensureGroup =>
    obtain ⟨_, grouped, same⟩ := Edit.bind_eq_ok.mp accepted
    cases same
    refine @Follows.request _ _ .group _ _ follows rfl rfl (fun other => ?_) fun _ =>
      requireGroup_eq_ok.mp grouped
    cases other <;> simp [Check.isSet]
  | ensureUser =>
    cases accepted
    refine @Follows.request _ _ .user _ _ follows rfl rfl (fun other => ?_) fun other =>
      absurd rfl other
    cases other <;> simp [Check.isSet, ensureUser]
  | assignGroup =>
    obtain ⟨_, grouped, same⟩ := Edit.bind_eq_ok.mp accepted
    cases same
    refine @Follows.request _ _ .membership _ _ follows rfl rfl (fun other => ?_) fun _ =>
      requireGroup_eq_ok.mp grouped
    cases other <;> simp [Check.isSet]

/-- All calls after some others are told of, too. -/
theorem Follows.changes {earlier : List Call} (follows : Follows name earlier account)
    (accepted : calls.foldlM Call.change account = .ok next) :
    Follows name (earlier ++ calls) next := by
  induction calls generalizing earlier account with
  | nil =>
    cases accepted
    rwa [List.append_nil]
  | cons call rest ih =>
    obtain ⟨between, here, later⟩ := Edit.bind_eq_ok.mp accepted
    rw [List.append_cons]
    exact ih (follows.change here) later

/-- **An account tells of exactly the calls that made it.** -/
theorem follows_ofCalls (made : ofCalls name calls = .ok account) :
    Follows name calls account := by
  obtain ⟨start, named, accepted⟩ := Edit.bind_eq_ok.mp made
  exact (follows_ofName named).changes accepted

theorem Follows.requested_eq (follows : Follows name calls account) :
    requested calls = Check.those (Check.isSet account) := by
  refine List.filter_congr fun check _ => ?_
  rw [Bool.eq_iff_iff, decide_eq_true_iff, follows.checks check]

/-- The account has checks to make exactly if one was requested. -/
theorem Follows.needsDetection (follows : Follows name calls account) :
    account.needsDetection = true ↔ requested calls ≠ [] := by
  rw [follows.requested_eq, Check.those_isSet, Account.needsDetection]
  cases account.ensuresGroup <;> cases account.ensuresUser <;> cases account.assignsGroup <;> decide

theorem ofCalls_append {later : List Call} (made : ofCalls name calls = .ok account) :
    ofCalls name (calls ++ later) = later.foldlM Call.change account := by
  obtain ⟨start, named, accepted⟩ := Edit.bind_eq_ok.mp made
  rw [ofCalls, named]
  show (calls ++ later).foldlM Call.change start = _
  rw [List.foldlM_append, accepted]
  rfl

/-- **A check of the group is refused where there is none**, and with it all later calls. -/
theorem ofCalls_ungrouped (made : ofCalls name calls = .ok account)
    (ungrouped : ∀ group, Call.group group ∉ calls) (later : List Call) :
    ofCalls name (calls ++ .ensureGroup :: later) =
        .error (.missing ("user '" ++ name ++ "' ensure_group") "group") ∧
      ofCalls name (calls ++ .assignGroup :: later) =
        .error (.missing ("user '" ++ name ++ "' assign_group") "group") := by
  have follows := follows_ofCalls made
  have none : account.group.isSome = false := by
    rw [← Bool.not_eq_true, follows.group]
    exact fun ⟨group, given⟩ => ungrouped group given
  have refused (request : String) : account.requireGroup request =
      .error (.missing ("user '" ++ name ++ "' " ++ request) "group") := by
    rw [requireGroup, none, follows.named]
    rfl
  constructor
  · rw [ofCalls_append made, List.foldlM_cons, Call.change, ensureGroup, refused,
      String.append_assoc]
    rfl
  · rw [ofCalls_append made, List.foldlM_cons, Call.change, assignGroup, refused,
      String.append_assoc]
    rfl

end Calls

/-! ### Steps -/

/-- What a step does for a check with the tools of a family of images: it creates the group unless
it exists, creates the user unless it exists, or puts the user into the group. -/
inductive Takes (account : Account) (tools : Tools) : Check → String → Prop where
  | group {group : String} (given : account.group = some group) : Takes account tools .group
    ("(" ++ groupExists group ++ " || " ++ tools.createGroup group ++ ")")
  | user : Takes account tools .user
    ("(" ++ userExists account.name ++ " || " ++
      tools.createUser account.name account.group ++ ")")
  | membership {group : String} (given : account.group = some group) :
    Takes account tools .membership (tools.assign account.name group)

/-- **Every check that an account makes takes one step**, if those of the group come with a
group. -/
theorem steps_take {account : Account} (tools : Tools)
    (grouped : ∀ check : Check, check ≠ .user → check.isSet account = true →
      account.group.isSome = true) :
    List.Forall₂ (account.Takes tools) (Check.those (Check.isSet account))
      (account.steps tools) := by
  rw [Check.those_isSet, steps]
  refine List.rel_append (List.rel_append ?group ?user) ?membership
  case group =>
    cases isSet : account.ensuresGroup with
    | false => exact .nil
    | true =>
      obtain ⟨group, given⟩ := Option.isSome_iff_exists.mp (grouped .group nofun isSet)
      rw [given]
      exact .cons (.group given) .nil
  case user =>
    cases account.ensuresUser with
    | false => exact .nil
    | true => exact .cons .user .nil
  case membership =>
    cases isSet : account.assignsGroup with
    | false => exact .nil
    | true =>
      obtain ⟨group, given⟩ := Option.isSome_iff_exists.mp (grouped .membership nofun isSet)
      rw [given]
      exact .cons (.membership given) .nil

/-- The lines run the steps in a row: each step but the last is joined to the next one, and the last
ends the row. -/
def Joined (steps lines : List String) : Prop :=
  ∃ before last, steps = before ++ [last] ∧
    lines = before.map (fun step => "  " ++ step ++ " &&") ++ ["  " ++ last ++ ";"]

theorem Joined.length_eq {steps lines : List String} (joined : Joined steps lines) :
    lines.length = steps.length := by
  obtain ⟨before, last, rfl, rfl⟩ := joined
  simp

/-- **The lines of a branch run its steps**, of which there has to be one. -/
theorem joined_branchLines {steps : List String} (nonempty : steps ≠ []) :
    Joined steps (branchLines steps) := by
  induction steps with
  | nil => exact absurd rfl nonempty
  | cons step rest ih =>
    cases rest with
    | nil => exact ⟨[], step, rfl, rfl⟩
    | cons next more =>
      obtain ⟨before, last, same, lines⟩ := ih (List.cons_ne_nil next more)
      rw [branchLines, lines]
      exact ⟨step :: before, last, congrArg (step :: ·) same, rfl⟩

/-! ### The instruction -/

/-- The step for a check with the tools of a family of images. A check of the group has one only if
there is a group. -/
def Check.step? (account : Account) (tools : Tools) : Check → Option String
  | .group => account.group.map fun group =>
    "(" ++ groupExists group ++ " || " ++ tools.createGroup group ++ ")"
  | .user => some ("(" ++ userExists account.name ++ " || " ++
    tools.createUser account.name account.group ++ ")")
  | .membership => account.group.map fun group => tools.assign account.name group

/-- The lines of a branch: the steps for the checks that are set, in a row. -/
def branch (account : Account) (tools : Tools) : List String :=
  let steps := (Check.those (Check.isSet account)).filterMap (Check.step? account tools)
  steps.dropLast.map (fun step => "  " ++ step ++ " &&") ++
    (steps.getLast?.map fun step => "  " ++ step ++ ";").toList

/-- **The instruction for the checks of an account**, if one of the three is set. It looks for the
package manager and runs the steps with the tools of that family of images. -/
def checkInstructions (account : Account) : List Instruction :=
  if account.ensuresGroup ∨ account.ensuresUser ∨ account.assignsGroup then
    [.run (["if command -v apk >/dev/null 2>&1; then"] ++ account.branch alpineTools ++
      ["else"] ++ account.branch shadowTools ++ ["fi"])]
  else []

theorem steps_eq (account : Account) (tools : Tools) : account.steps tools =
    (Check.those (Check.isSet account)).filterMap (Check.step? account tools) := by
  rw [Check.those_isSet, List.filterMap_append, List.filterMap_append, steps]
  congr 2
  · cases account.ensuresGroup <;> cases group : account.group <;> simp [Check.step?, group]
  · cases account.ensuresUser <;> simp [Check.step?]
  · cases account.assignsGroup <;> cases group : account.group <;> simp [Check.step?, group]

theorem branchLines_steps (account : Account) (tools : Tools) :
    branchLines (account.steps tools) = account.branch tools := by
  rw [branch, ← steps_eq]
  by_cases none : account.steps tools = []
  · rw [none]
    rfl
  · obtain ⟨before, last, steps, lines⟩ := joined_branchLines none
    rw [lines, steps, List.dropLast_concat, List.getLast?_concat]
    rfl

/-- **What is written for an account** is the instruction for its checks. -/
theorem bootstrap_toList (account : Account) :
    account.bootstrap.toList = account.checkInstructions := by
  rw [bootstrap, checkInstructions, ← branchLines_steps, ← branchLines_steps, needsDetection]
  simp only [Bool.or_eq_true, or_assoc]
  split <;> rfl

end Account

/-- **The checks of an account are a script of two branches.** Whatever calls made an account, there
is no instruction exactly if none of them requested a check. Otherwise the instruction is a test for
the package manager, a step for each check that was requested, `else`, a step for each of them with
the other tools, and `fi`; both branches take the checks in the order group, user, membership, and
join their steps up to the last. No check is left out: those of the group are refused as long as
there is no group. -/
theorem bootstrap_checks {name : String} {calls : List Account.Call} {account : Account}
    (made : Account.ofCalls name calls = .ok account) :
    (account.bootstrap = none ↔ Account.requested calls = []) ∧
    (∀ instruction, account.bootstrap = some instruction → ∃ alpine shadow first second,
      instruction = .run (["if command -v apk >/dev/null 2>&1; then"] ++ first ++ ["else"] ++
        second ++ ["fi"]) ∧
      List.Forall₂ (account.Takes Account.alpineTools) (Account.requested calls) alpine ∧
      List.Forall₂ (account.Takes Account.shadowTools) (Account.requested calls) shadow ∧
      Account.Joined alpine first ∧ Account.Joined shadow second ∧
      0 < first.length ∧ first.length = (Account.requested calls).length ∧
      second.length = (Account.requested calls).length) ∧
    ((∀ group, Account.Call.group group ∉ calls) → ∀ later,
      Account.ofCalls name (calls ++ .ensureGroup :: later) =
          .error (.missing ("user '" ++ name ++ "' ensure_group") "group") ∧
        Account.ofCalls name (calls ++ .assignGroup :: later) =
          .error (.missing ("user '" ++ name ++ "' assign_group") "group")) := by
  have follows := Account.follows_ofCalls made
  refine ⟨?absent, fun instruction given => ?present, Account.ofCalls_ungrouped made⟩
  case absent =>
    rw [← not_iff_not, ← ne_eq (Account.requested calls), ← follows.needsDetection,
      Account.bootstrap]
    cases account.needsDetection <;> simp
  case present =>
    have branch (tools : Account.Tools) := Account.steps_take tools follows.grouped
    rw [Account.bootstrap] at given
    split at given
    · rename_i needed
      cases given
      rw [follows.needsDetection, follows.requested_eq] at needed
      have full (tools : Account.Tools) : account.steps tools ≠ [] := by
        intro none
        have taken := branch tools
        rw [none] at taken
        exact needed (List.forall₂_nil_right_iff.mp taken)
      have first := Account.joined_branchLines (full Account.alpineTools)
      have second := Account.joined_branchLines (full Account.shadowTools)
      rw [follows.requested_eq]
      refine ⟨_, _, _, _, rfl, branch _, branch _, first, second, ?_, ?_, ?_⟩
      · rw [first.length_eq]
        exact List.length_pos_iff.mpr (full _)
      · rw [first.length_eq, (branch _).length_eq]
      · rw [second.length_eq, (branch _).length_eq]
    · cases given

/-- Calls that request two checks, the one that comes last in the script first. -/
def Account.memberCalls : List Account.Call := [.group "docker", .assignGroup, .ensureUser]

theorem bootstrap_checks_memberCalls :
    ∃ account, Account.ofCalls "svc" Account.memberCalls = .ok account ∧
      Account.requested Account.memberCalls = [.user, .membership] ∧
      account.bootstrap = some (.run ["if command -v apk >/dev/null 2>&1; then",
        "  (id -u svc >/dev/null 2>&1 || adduser -S -D -G docker svc) &&",
        "  addgroup svc docker;", "else",
        "  (id -u svc >/dev/null 2>&1 || useradd -r -m -g docker svc) &&",
        "  usermod -aG docker svc;", "fi"]) ∧
      (account.bootstrap = none ↔ Account.requested Account.memberCalls = []) ∧
      Account.ofCalls "svc" [.ensureUser, .ensureGroup, .group "docker"] =
        .error (.missing "user 'svc' ensure_group" "group") := by
  have made : Account.ofCalls "svc" Account.memberCalls = .ok _ := rfl
  have early : Account.ofCalls "svc" [.ensureUser] = .ok _ := rfl
  have ungrouped := (bootstrap_checks early).2.2 (by simp) [.group "docker"]
  exact ⟨_, made, rfl, rfl, (bootstrap_checks made).1, ungrouped.1⟩

end ContainerStack.Script
