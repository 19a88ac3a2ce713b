import ContainerStack.Proofs.AccountChecks
import ContainerStack.Proofs.CallGroups

/-!
**What a stage writes, from the calls that were made on it.**

A call that is refused leaves nothing behind, so what a stage holds is what the accepted calls gave.

* `OrderedMap.collected`: the pairs of a map, from the pairs that were inserted.
* `Stage.accepted`: the calls of a run that were accepted. `Stage.given`: what some calls gave for a
  group.
* `Group.collect`: a part of a stage, from all that was given for it.
* `Stage.Holds`: a stage holds what some calls gave. `Holds.accept`, `Holds.after`: a call and a
  run keep that up.
* `Setting.judged`: the answer to a call, from the calls that were accepted before it.
* `Stage.emitted`: the instructions, from the calls that were accepted.
* `emits_exactly`: these are the instructions of a stage after any run of calls.
-/

namespace ContainerStack

namespace OrderedMap

variable {α : Type}

/-- The distinct keys of some pairs in the order in which they come first, each with the value that
comes last. -/
def collected (pairs : List (String × α)) : List (String × α) :=
  (pairs.map Prod.fst).eraseDups.filterMap fun key =>
    (pairs.reverse.lookup key).map fun value => (key, value)

/-- **A map of inserted pairs** has each key at the place of its first pair with the value of its
last one. -/
theorem entries_ofList (pairs : List (String × α)) : (ofList pairs).entries = collected pairs := by
  rw [eq_filterMap_lookup (.refl _) (ofList pairs).nodup_keys, collected]
  show (ofList pairs).keys.filterMap
    (fun key => ((ofList pairs).get? key).map fun value => (key, value)) = _
  rw [keys_ofList]
  simp only [get?_ofList]

end OrderedMap

namespace Script.Stage

open Edit

/-! ### What the calls gave -/

/-- The calls of a run that are accepted, in order. -/
def accepted (stage : Stage) (settings : List Setting) : List Setting :=
  ((stage.transcript settings).filter fun call => call.2.isOk).map Prod.fst

/-- What a call gives for a group, if it is a call of the group. -/
def Setting.entryOf? (group : Group) (setting : Setting) : Option group.Entry :=
  if about : setting.group = group then some (about ▸ setting.entry) else none

/-- What some calls give for a group, in order. -/
def given (calls : List Setting) (group : Group) : List group.Entry :=
  calls.filterMap (Setting.entryOf? group)

namespace Group

/-- A part of a stage, from all that was given for it: arguments and variables stand where they came
first with the value that came last, repeated ports and volumes count once, copies and commands are
all there, and of the rest there is the last. -/
def collect : (group : Group) → List group.Entry → group.Part
  | .isBase, entries => entries.getLast?.getD false
  | .globalArgs, entries => .ofList entries
  | .base, entries => entries.getLast?
  | .buildUser, entries => entries.getLast?
  | .serviceUser, entries => entries.getLast?
  | .args, entries => .ofList entries
  | .environment, entries => .ofList entries
  | .ports, entries => entries.eraseDups
  | .volumes, entries => entries.eraseDups
  | .workdir, entries => entries.getLast?
  | .copies, entries => entries
  | .runs, entries => entries
  | .predefined _, entries => entries
  | .entrypoint, entries => entries.getLast?
  | .command, entries => entries.getLast?

/-- **One more entry is added to what was collected.** -/
theorem collect_concat (group : Group) (entries : List group.Entry) (entry : group.Entry) :
    group.collect (entries ++ [entry]) = group.add (group.collect entries) entry := by
  cases group with
  | globalArgs => exact OrderedMap.insertAll_concat .empty entries entry
  | args => exact OrderedMap.insertAll_concat .empty entries entry
  | environment => exact OrderedMap.insertAll_concat .empty entries entry
  | ports => simp [collect, add, eraseDups_concat]
  | volumes => simp [collect, add, eraseDups_concat]
  | _ => simp [collect, add]

/-- What is there at most once is taken as soon as it was given. -/
theorem isTaken_collect {group : Group} (single : group.single?.isSome = true)
    (entries : List group.Entry) : group.isTaken (group.collect entries) = !entries.isEmpty := by
  have last {α : Type} (items : List α) : items.getLast?.isSome = !items.isEmpty := by
    cases items <;> simp
  cases group with
  | base => exact last entries
  | predefined kind => rfl
  | entrypoint => exact last entries
  | command => exact last entries
  | _ => cases single

end Group

section Given

variable {setting : Setting} {group : Group}

theorem given_append (before after : List Setting) (group : Group) :
    given (before ++ after) group = given before group ++ given after group :=
  List.filterMap_append

theorem given_self (setting : Setting) : given [setting] setting.group = [setting.entry] := by
  simp [given, Setting.entryOf?]

theorem given_other (differs : setting.group ≠ group) : given [setting] group = [] := by
  simp [given, Setting.entryOf?, differs]

end Given

namespace Setting

/-- **The answer to a call**, from the calls that were accepted before it: the arguments are
checked, and what is there at most once must not have been given. -/
def judged (setting : Setting) (name : String) (earlier : List Setting) : Except Fault Unit := do
  setting.check
  match setting.group.single? with
  | none => return
  | some word =>
    Validation.ensure (given earlier setting.group).isEmpty
      (.duplicate .instruction (word ++ " in " ++ ("stage '" ++ name ++ "'")))

end Setting

/-! ### Runs -/

/-- **A stage holds what some calls gave**, and what is there at most once was given at most
once. -/
structure Holds (stage : Stage) (calls : List Setting) : Prop where
  parts : ∀ group : Group, stage.part group = group.collect (given calls group)
  single : ∀ group : Group, group.single?.isSome = true → (given calls group).length ≤ 1

namespace Holds

variable {stage : Stage} {calls : List Setting}

theorem create {name : String} (created : create name = .ok stage) : stage.Holds [] := by
  obtain ⟨_, _, same⟩ := bind_eq_ok.mp created
  cases same
  refine ⟨fun group => ?_, fun _ _ => Nat.zero_le 1⟩
  cases group <;> rfl

/-- The answer to a call is found in the calls alone. -/
theorem verdict (holds : stage.Holds calls) (setting : Setting) (name : String) :
    setting.verdict name (stage.part setting.group) = setting.judged name calls := by
  unfold Setting.verdict Setting.judged
  cases single : setting.group.single? with
  | none => rfl
  | some word =>
    have there : setting.group.single?.isSome = true := by rw [single]; rfl
    rw [holds.parts, Group.isTaken_collect there, Bool.not_not]

/-- **What a call gives is held when it is accepted.** -/
theorem accept {setting : Setting} {name : String} (holds : stage.Holds calls)
    (accepted : setting.judged name calls = .ok ()) :
    (setting.change stage).Holds (calls ++ [setting]) := by
  constructor
  case parts =>
    intro group
    rw [given_append]
    by_cases about : setting.group = group
    · subst about
      rw [given_self, Setting.part_change, holds.parts, Group.collect_concat]
    · rw [given_other about, List.append_nil, Setting.part_change_other about, holds.parts]
  case single =>
    intro group single
    rw [given_append]
    by_cases about : setting.group = group
    · subst about
      obtain ⟨_, _, free⟩ := bind_eq_ok.mp accepted
      obtain ⟨word, named⟩ := Option.isSome_iff_exists.mp single
      rw [named] at free
      have none : given calls setting.group = [] :=
        List.isEmpty_iff.mp (Validation.ensure_eq_ok.mp free)
      rw [none, given_self]
      exact Nat.le_refl 1
    · rw [given_other about, List.append_nil]
      exact holds.single group single

/-- **After any run a stage holds what the accepted calls gave.** -/
theorem after (holds : stage.Holds calls) (settings : List Setting) :
    (stage.after settings).Holds (calls ++ stage.accepted settings) := by
  -- The run is read from the left, with the calls that were accepted so far.
  induction settings generalizing stage calls with
  | nil => exact (List.append_nil calls).symm ▸ holds
  | cons setting rest ih =>
    have answers := setting_answers setting stage
    rw [holds.verdict] at answers
    cases judged : setting.judged stage.name calls with
    | error fault =>
      rw [Answers.eq_def, judged] at answers
      have refused : stage.accepted (setting :: rest) = stage.accepted rest := by
        simp [accepted, transcript, answers, Except.isOk, Except.toBool]
      have left : stage.after (setting :: rest) = stage.after rest := by
        show (setting.edit.apply stage).2.after rest = _
        rw [answers]
      rw [refused, left]
      exact ih holds
    | ok _ =>
      rw [Answers.eq_def, judged] at answers
      have taken : stage.accepted (setting :: rest) =
          setting :: (setting.change stage).accepted rest := by
        simp [accepted, transcript, answers, Except.isOk, Except.toBool]
      have left : stage.after (setting :: rest) = (setting.change stage).after rest := by
        show (setting.edit.apply stage).2.after rest = _
        rw [answers]
      rw [taken, left, List.append_cons]
      exact ih (holds.accept judged)

end Holds

/-! ### Instructions -/

/-- The paths that are handed over to the account of the container: the last working directory, or
else the distinct destinations of the copies. -/
def handedOver (calls : List Setting) : List String :=
  match (given calls .workdir).getLast? with
  | some path => [path]
  | none => ((given calls .copies).map FileCopy.destination).eraseDups

/-- The instructions that hand over these paths, if there are any, and switch to the account. What
runs as another account before has to be root for that. -/
def handover (calls : List Setting) : List Instruction :=
  match (given calls .serviceUser).getLast? with
  | none => []
  | some account =>
    let owner := match account.group with
      | some group => account.name ++ ":" ++ group
      | none => account.name
    (if handedOver calls = [] then []
    else
      (if given calls .buildUser = [] then [] else [.user "root" none]) ++
        [.run ["chown -R " ++ owner ++ " " ++ String.intercalate " " (handedOver calls)]]) ++
    [.user account.name account.group]

/-- The instructions for the checks of the account that was given last. -/
def checksOf (accounts : List Account) : List Instruction :=
  accounts.getLast?.toList.flatMap Account.checkInstructions

/-- The argument instructions of some pairs. -/
def argumentsOf (pairs : List (String × Option String)) : List Instruction :=
  (OrderedMap.collected pairs).map fun (name, value) => .argument name value

/-- The variable instructions of some pairs. -/
def variablesOf (pairs : List (String × String)) : List Instruction :=
  (OrderedMap.collected pairs).map fun (key, value) => .environment key value

/-- Neither an entrypoint nor a command is given, and the stage is not said to be only built
upon. -/
abbrev LacksProcess (calls : List Setting) : Prop :=
  (given calls .isBase).getLast? ≠ some true ∧ given calls .entrypoint = [] ∧
    given calls .command = []

/-- **The instructions that accepted calls make**, on a stage of some name. -/
def emitted (name : String) (calls : List Setting) : Except Fault (List Instruction) :=
  match (given calls .base).getLast? with
  | none => .error (.missing ("stage '" ++ name ++ "'") "from")
  | some base =>
    if LacksProcess calls then .error (.obstructed (.noProcess name))
    else
      .ok (argumentsOf (given calls .globalArgs) ++
        [.base base.image base.knownAs] ++
        checksOf (given calls .buildUser) ++ checksOf (given calls .serviceUser) ++
        ((given calls .buildUser).getLast?.map fun account =>
          .user account.name account.group).toList ++
        argumentsOf (given calls .args) ++
        variablesOf (given calls .environment) ++
        ((given calls .ports).eraseDups.map fun (port, protocol) => .expose port protocol) ++
        (if given calls .volumes = [] then [] else [.volume (given calls .volumes).eraseDups]) ++
        ((given calls .workdir).getLast?.map Instruction.workdir).toList ++
        (given calls .copies).map Instruction.copy ++
        ((given calls (.predefined .pinVersion)).map fun pin => .run [pin.command]) ++
        ((given calls .runs).map fun line => .run [line]) ++
        handover calls ++
        ((given calls (.predefined .install)).map fun install => .run [install.command]) ++
        ((given calls .entrypoint).getLast?.map Instruction.entrypoint).toList ++
        ((given calls .command).getLast?.map Instruction.command).toList)

theorem argInstructions_ofList (pairs : List (String × Option String)) :
    argInstructions (.ofList pairs) = argumentsOf pairs := by
  rw [argInstructions, argumentsOf, OrderedMap.toList, OrderedMap.entries_ofList]

theorem bind_bootstrap (accounts : List Account) :
    (accounts.getLast?.bind Account.bootstrap).toList = checksOf accounts := by
  rw [checksOf]
  cases accounts.getLast? with
  | none => rfl
  | some account => simpa using account.bootstrap_toList

namespace Holds

variable {stage : Stage} {calls : List Setting}

theorem ownershipTargets (holds : stage.Holds calls) :
    stage.ownershipTargets = handedOver calls := by
  have workdir : stage.workdir = (given calls .workdir).getLast? := holds.parts .workdir
  have copies : stage.copies = given calls .copies := holds.parts .copies
  rw [ownershipTargets_eq, handedOver, workdir, copies]
  rfl

theorem serviceUserInstructions (holds : stage.Holds calls) :
    stage.serviceUserInstructions = handover calls := by
  have serviceUser : stage.serviceUser = (given calls .serviceUser).getLast? :=
    holds.parts .serviceUser
  have buildUser : stage.buildUser = (given calls .buildUser).getLast? := holds.parts .buildUser
  rw [Stage.serviceUserInstructions, handover, serviceUser, buildUser, holds.ownershipTargets]
  cases (given calls .serviceUser).getLast? with
  | none => rfl
  | some account =>
    simp only [List.isEmpty_iff, List.getLast?_isSome]
    by_cases kept : given calls .buildUser = []
    · simp only [kept, if_pos, ne_eq, not_true, if_false, List.nil_append]
      rfl
    · simp only [kept, if_pos, ne_eq, not_false_iff, if_false]
      rfl

/-- **The instructions of a stage are those that the calls make.** -/
theorem instructions (holds : stage.Holds calls) :
    stage.instructions = emitted stage.name calls := by
  have isBase : stage.isBase = (given calls .isBase).getLast?.getD false := holds.parts .isBase
  have globalArgs : stage.globalArgs = .ofList (given calls .globalArgs) :=
    holds.parts .globalArgs
  have base : stage.base = (given calls .base).getLast? := holds.parts .base
  have buildUser : stage.buildUser = (given calls .buildUser).getLast? := holds.parts .buildUser
  have serviceUser : stage.serviceUser = (given calls .serviceUser).getLast? :=
    holds.parts .serviceUser
  have args : stage.args = .ofList (given calls .args) := holds.parts .args
  have environment : stage.environment = .ofList (given calls .environment) :=
    holds.parts .environment
  have exposed : stage.exposed = (given calls .ports).eraseDups := holds.parts .ports
  have volumes : stage.volumes = (given calls .volumes).eraseDups := holds.parts .volumes
  have workdir : stage.workdir = (given calls .workdir).getLast? := holds.parts .workdir
  have copies : stage.copies = given calls .copies := holds.parts .copies
  have runs : stage.runs = given calls .runs := holds.parts .runs
  have entrypoint : stage.entrypoint = (given calls .entrypoint).getLast? :=
    holds.parts .entrypoint
  have command : stage.command = (given calls .command).getLast? := holds.parts .command
  have pins : stage.part (.predefined .pinVersion) = given calls (.predefined .pinVersion) :=
    holds.parts (.predefined .pinVersion)
  have installs : stage.part (.predefined .install) = given calls (.predefined .install) :=
    holds.parts (.predefined .install)
  rw [Stage.instructions, emitted, base]
  cases (given calls .base).getLast? with
  | none => rfl
  | some base =>
    dsimp only
    rw [(predefinedRuns_eq stage).1, (predefinedRuns_eq stage).2, pins, installs,
      holds.serviceUserInstructions, globalArgs, buildUser, serviceUser, bind_bootstrap,
      bind_bootstrap, args, environment, exposed, volumes, workdir, copies, runs, entrypoint,
      command, isBase, argInstructions_ofList, argInstructions_ofList, OrderedMap.toList,
      OrderedMap.entries_ofList, isEmpty_eraseDups]
    have ready : ((given calls .isBase).getLast?.getD false ||
        (given calls .entrypoint).getLast?.isSome || (given calls .command).getLast?.isSome) =
          true ↔ ¬LacksProcess calls := by
      have flag (last : Option Bool) : last.getD false = true ↔ last = some true := by
        cases last <;> simp
      rw [Bool.or_eq_true, Bool.or_eq_true, flag, List.getLast?_isSome, List.getLast?_isSome,
        LacksProcess]
      tauto
    by_cases lacking : LacksProcess calls
    · rw [if_pos lacking, Bool.eq_false_iff.mpr fun isReady => ready.mp isReady lacking]
      rfl
    · rw [if_neg lacking, ready.mpr lacking]
      simp only [List.isEmpty_iff]
      rfl

end Holds

/-- **What a stage writes is determined by the calls that it accepted.** After any run of calls on a
new stage, accepted or refused, its instructions are the ones that the accepted calls make, in
their order. A next call is answered by its arguments and the accepted calls alone, and what is
there at most once was given at most once. -/
theorem emits_exactly {name : String} {start : Stage} (created : create name = .ok start)
    (settings : List Setting) :
    (start.after settings).instructions = emitted name (start.accepted settings) ∧
      (∀ next : Setting, (next.edit.apply (start.after settings)).1 =
        next.judged name (start.accepted settings)) ∧
      ∀ group : Group, group.single?.isSome = true →
        (given (start.accepted settings) group).length ≤ 1 := by
  have named : (start.after settings).name = name :=
    (start.after_frame settings).1.trans (create_sound created).2
  have holds : (start.after settings).Holds (start.accepted settings) :=
    (Holds.create created).after settings
  refine ⟨?instructions, fun next => ?answer, holds.single⟩
  case instructions => rw [holds.instructions, named]
  case answer => rw [setting_answers next, holds.verdict, named]

/-- Calls in some order, of which five are refused. -/
def wornCalls : List Setting :=
  [.command (.shell "node server.js"), .env "PORT" "80", .base "a b" none, .port 0 .tcp,
    .isBase true, .copy ⟨["dist"], "/srv", none, none⟩, .base "node:20" (some "runtime"),
    .predefined (.install .npm true), .env "HOST" "::", .volume "/data", .command (.exec ["sh"]),
    .env "PORT" "3000", .base "debian" none, .port 3000 .tcp, .run "npm test",
    .serviceUser ⟨"root", none, false, false, false⟩, .volume "/data",
    .buildUser ⟨"builder", some "ci", true, true, true⟩, .port 3000 .udp,
    .serviceUser ⟨"node", none, false, true, false⟩,
    .predefined (.install .yarn false), .predefined (.pinVersion .npm "10.8.0"),
    .copy ⟨["etc"], "/srv", none, none⟩, .port 3000 .tcp, .run "npm run build", .isBase false,
    .globalArg "TAG" none]

theorem emits_exactly_wornCalls :
    ∃ start, create "app" = .ok start ∧
      ((start.transcript wornCalls).filter fun call => !call.2.isOk).map (·.1.group) =
        [.base, .ports, .command, .base, .predefined .install] ∧
      emitted "app" (start.accepted wornCalls) = .ok
        [.argument "TAG" none, .base "node:20" (some "runtime"),
          .run ["if command -v apk >/dev/null 2>&1; then",
            "  (grep -q '^ci:' /etc/group || addgroup -S ci) &&",
            "  (id -u builder >/dev/null 2>&1 || adduser -S -D -G ci builder) &&",
            "  addgroup builder ci;", "else",
            "  (grep -q '^ci:' /etc/group || groupadd -r ci) &&",
            "  (id -u builder >/dev/null 2>&1 || useradd -r -m -g ci builder) &&",
            "  usermod -aG ci builder;", "fi"],
          .run ["if command -v apk >/dev/null 2>&1; then",
            "  (id -u node >/dev/null 2>&1 || adduser -S -D node);", "else",
            "  (id -u node >/dev/null 2>&1 || useradd -r -m node);", "fi"],
          .user "builder" (some "ci"),
          .environment "PORT" "3000", .environment "HOST" "::", .expose 3000 .tcp,
          .expose 3000 .udp, .volume ["/data"], .copy ⟨["dist"], "/srv", none, none⟩,
          .copy ⟨["etc"], "/srv", none, none⟩, .run ["npm install --global npm@10.8.0"],
          .run ["npm test"], .run ["npm run build"], .user "root" none,
          .run ["chown -R node /srv"], .user "node" none,
          .run ["npm ci --no-audit --no-fund --omit=dev"], .command (.shell "node server.js")] ∧
      (start.after wornCalls).instructions = emitted "app" (start.accepted wornCalls) ∧
      (∀ next : Setting, (next.edit.apply (start.after wornCalls)).1 =
        next.judged "app" (start.accepted wornCalls)) ∧
      ∀ group : Group, group.single?.isSome = true →
        (given (start.accepted wornCalls) group).length ≤ 1 := by
  have created : create "app" = .ok _ := rfl
  exact ⟨_, created, by decide +kernel, by decide +kernel, emits_exactly created wornCalls⟩

end Script.Stage

end ContainerStack
