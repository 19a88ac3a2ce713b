import ContainerStack.Proofs.Alternatives

/-!
**Only the order within each kind matters.**

Operations of different kinds look at each other's registries, but only to find out whether a name
is there. What an operation stores is taken from its arguments and from the part of the stack that
it changes, so the moment at which something else appeared leaves no trace.

* `Edit.Concurs`: two edits that are accepted for the same value leave the same.
* `Service.setting_concurs`, `Service.ofSpec_concurs`: what is accepted under two lookups is the
  same under both.
* `Stack.Target`, `Stack.part`: the parts of a stack, of which every operation changes at most one.
* `accepted_withPart`, `accepted_concurs`: one operation, seen from the parts of the stack.
* `Stack.PartRun`: what the operations on one part make of it. `PartRun.of_run` cuts it out of a run
  of a stack, and `PartRun.unique` says that nothing else has an influence.
* `order_within_kinds`: runs that agree part by part lead to the same stack.
-/

namespace ContainerStack

/-! ### Edits that leave the same -/

namespace Edit

variable {σ α β ι : Type}

/-- What both answers accept is the same. -/
def Agrees (first second : Except Fault α) : Prop :=
  ∀ one two, first = .ok one → second = .ok two → one = two

/-- Where both edits are accepted they leave the same. -/
def Concurs (first second : Edit σ Unit) : Prop :=
  ∀ before one two, first.Accepts before one → second.Accepts before two → one = two

theorem Agrees.refl (answer : Except Fault α) : Agrees answer answer := by
  intro one two first second
  rw [first] at second
  exact Except.ok.inj second

theorem Agrees.bind {first second : Except Fault α} {next other : α → Except Fault β}
    (agrees : Agrees first second) (later : ∀ given, Agrees (next given) (other given)) :
    Agrees (first >>= next) (second >>= other) := by
  intro one two left right
  obtain ⟨given, here, left⟩ := bind_eq_ok.mp left
  obtain ⟨same, there, right⟩ := bind_eq_ok.mp right
  cases agrees given same here there
  exact later given one two left right

theorem Agrees.foldlM {first second : β → ι → Except Fault β}
    (each : ∀ value item, Agrees (first value item) (second value item)) (items : List ι)
    (start : β) : Agrees (items.foldlM first start) (items.foldlM second start) := by
  induction items generalizing start with
  | nil => exact .refl _
  | cons item rest ih =>
    rw [List.foldlM_cons, List.foldlM_cons]
    exact (each start item).bind ih

namespace Concurs

theorem refl (edit : Edit σ Unit) : edit.Concurs edit := by
  intro before one two first second
  exact (Prod.ext_iff.mp (first.symm.trans second)).2

theorem bind {first second : Edit σ Unit} {next other : Unit → Edit σ Unit}
    (concurs : first.Concurs second) (later : (next ()).Concurs (other ())) :
    (first >>= next).Concurs (second >>= other) := by
  intro before one two left right
  obtain ⟨given, here, left⟩ := accepts_bind.mp left
  obtain ⟨same, there, right⟩ := accepts_bind.mp right
  cases concurs before given same here there
  exact later given one two left right

theorem lift_bind {first second : Except Fault α} {next other : α → Edit σ Unit}
    (agrees : Agrees first second) (later : ∀ given, (next given).Concurs (other given)) :
    ((liftM first : Edit σ α) >>= next).Concurs ((liftM second : Edit σ α) >>= other) := by
  intro before one two left right
  obtain ⟨given, here, left⟩ := accepts_lift_bind.mp left
  obtain ⟨same, there, right⟩ := accepts_lift_bind.mp right
  cases agrees given same here there
  exact later given before one two left right

theorem forM_list {first second : ι → Edit σ Unit}
    (each : ∀ item, (first item).Concurs (second item)) (items : List ι) :
    (items.forM first).Concurs (items.forM second) := by
  induction items with
  | nil => exact refl _
  | cons item rest ih => exact bind (each item) ih

theorem forM_option {first second : ι → Edit σ Unit}
    (each : ∀ item, (first item).Concurs (second item)) (item : Option ι) :
    (item.forM first).Concurs (item.forM second) := by
  cases item with
  | none => exact refl _
  | some item => exact each item

/-- Edits that make one change under different guards concur. -/
theorem of_guarded {first second : Edit σ Unit} {guard other : σ → Prop} {change : σ → σ}
    (one : first.Guarded guard change) (two : second.Guarded other change) :
    first.Concurs second := by
  intro before left right acceptedFirst acceptedSecond
  rw [((one _ _).mp acceptedFirst).2, ((two _ _).mp acceptedSecond).2]

end Concurs

end Edit

open Edit

/-! ### What is taken from a lookup -/

/-- Checks give no answer to take anything from. -/
theorem Edit.Agrees.check (first second : Except Fault Unit) : Agrees first second :=
  fun _ _ _ _ => rfl

namespace Build

/-- Arguments and keys come last; keys are looked up. -/
theorem folds_agree (args keys : List (String × String)) (first second : EntityLookup)
    (build : Build) :
    Agrees
      (args.foldlM (fun (build : Build) arg => build.withArg arg.1 arg.2) build >>= fun build =>
        keys.foldlM (fun (build : Build) key => build.withSshKey key.1 key.2 first) build)
      (args.foldlM (fun (build : Build) arg => build.withArg arg.1 arg.2) build >>= fun build =>
        keys.foldlM (fun (build : Build) key => build.withSshKey key.1 key.2 second) build) := by
  refine .bind (.refl _) fun build => .foldlM (fun build key => ?_) keys build
  exact .bind (.refl _) fun _ => .bind (.check _ _) fun _ => .refl _

/-- **A build takes nothing from the lookup** that its keys are looked up in. -/
theorem ofSpec_agrees (spec : Spec) (first second : EntityLookup) :
    Agrees (ofSpec spec first) (ofSpec spec second) := by
  obtain ⟨context, dockerfile, target, args, ssh⟩ := spec
  cases context with
  | none => exact .refl _
  | some context =>
    refine .bind (.refl _) fun build => ?_
    cases dockerfile with
    | none =>
      refine .bind (.refl _) fun build => ?_
      cases target with
      | none => exact folds_agree _ _ first second build
      | some target => exact .bind (.refl _) fun build => folds_agree _ _ first second build
    | some dockerfile =>
      refine .bind (.refl _) fun build => ?_
      cases target with
      | none => exact folds_agree _ _ first second build
      | some target => exact .bind (.refl _) fun build => folds_agree _ _ first second build

end Build

/-- **A secret takes nothing from the lookup** that its file is looked up in. -/
theorem Secret.ofSpec_agrees (name : String) (spec : Spec) (first second : EntityLookup) :
    Agrees (ofSpec name spec first) (ofSpec name spec second) := by
  unfold ofSpec
  split
  · exact .refl _
  · exact .bind (.refl _) fun _ => .bind (.refl _) fun _ => .bind (.check _ _) fun _ => .refl _
  · exact .refl _
  · exact .refl _

/-- **A config takes nothing from the lookup** that its file is looked up in. -/
theorem ConfigFile.ofSpec_agrees (name : String) (spec : Spec) (first second : EntityLookup) :
    Agrees (ofSpec name spec first) (ofSpec name spec second) := by
  unfold ofSpec
  split
  · exact .refl _
  · exact .bind (.refl _) fun _ => .bind (.refl _) fun _ => .bind (.check _ _) fun _ => .refl _

namespace Service

section Lookups

variable (first second : EntityLookup)

/-- **A setter takes nothing from its lookup**: what it changes does not depend on it. -/
theorem setting_concurs (setting : Setting) :
    (Setting.edit first setting).Concurs (Setting.edit second setting) :=
  .of_guarded (setting_guarded first setting) (setting_guarded second setting)

/-- **A definition takes nothing from its lookup.** -/
theorem applySpec_concurs (spec : Spec) :
    (applySpec spec first).Concurs (applySpec spec second) := by
  have concurs := setting_concurs first second
  unfold applySpec
  refine .bind (.refl _) ?_
  refine .bind (.forM_option (fun build => .lift_bind (Build.ofSpec_agrees build first second)
    fun _ => .refl _) _) ?_
  refine .bind (.refl _) ?_
  refine .bind (.forM_list (fun _ => .lift_bind (.refl _) fun mount => concurs (.mount mount)) _) ?_
  refine .bind (.refl _) ?_
  refine .bind (.forM_list (fun path => concurs (.envFile path)) _) ?_
  refine .bind (.refl _) (.bind (.refl _) ?_)
  refine .bind (.forM_list (fun spec => concurs (.dependencySpec spec)) _) ?_
  refine .bind (.forM_list (fun network => concurs (.network network)) _) ?_
  refine .bind (.forM_option (fun _ => .lift_bind (.refl _) fun mode =>
    concurs (.networkMode mode)) _) ?_
  refine .bind (.refl _) (.bind (.refl _) (.bind (.refl _) (.bind (.refl _) (.bind (.refl _) ?_))))
  refine .bind (.forM_list (fun secret => concurs (.secret secret)) _) ?_
  refine .bind (.forM_list (fun _ => .lift_bind (.refl _) fun config =>
    concurs (.config config)) _) ?_
  exact .refl _

theorem ofSpec_agrees (name : String) (spec : Spec) :
    Agrees (ofSpec name spec first) (ofSpec name spec second) := by
  intro one two madeFirst madeSecond
  obtain ⟨start, created, accepted⟩ := ofSpec_accepts.mp madeFirst
  obtain ⟨same, again, acceptedToo⟩ := ofSpec_accepts.mp madeSecond
  cases Except.ok.inj (created.symm.trans again)
  exact applySpec_concurs first second spec start one two accepted acceptedToo

end Lookups

end Service

namespace Stack

/-! ### The parts of a stack -/

/-- What an operation is about. -/
inductive Target where
  | environment
  | envFiles
  | networks
  | volumes
  | secrets
  | configs
  | services
  deriving DecidableEq, Repr

/-- What a stack holds for a target; the choice of a main service belongs to the services. -/
def Target.Part : Target → Type
  | environment => OrderedMap String
  | envFiles => List String
  | networks => Registry Network
  | volumes => Registry Volume
  | secrets => Registry Secret
  | configs => Registry ConfigFile
  | services => Registry Service × Option String

/-- The part of a stack that a target names. -/
def part (stack : Stack) : (target : Target) → target.Part
  | .environment => stack.environment
  | .envFiles => stack.envFiles
  | .networks => stack.networks
  | .volumes => stack.volumes
  | .secrets => stack.secrets
  | .configs => stack.configs
  | .services => (stack.services, stack.mainService)

/-- The stack with another part. -/
def withPart (stack : Stack) : {target : Target} → target.Part → Stack
  | .environment, environment => { stack with environment := environment }
  | .envFiles, files => { stack with envFiles := files }
  | .networks, networks => { stack with networks := networks }
  | .volumes, volumes => { stack with volumes := volumes }
  | .secrets, secrets => { stack with secrets := secrets }
  | .configs, configs => { stack with configs := configs }
  | .services, (services, main) => { stack with services := services, mainService := main }

/-- What an operation is about; writing the manifest is about nothing. -/
def Operation.target? : Operation → Option Target
  | .setEnv _ _ => some .environment
  | .addEnvFile _ => some .envFiles
  | .setMainService _ => some .services
  | .createService _ _ => some .services
  | .createNetwork _ _ => some .networks
  | .createVolume _ _ => some .volumes
  | .createSecret _ _ => some .secrets
  | .createConfig _ _ => some .configs
  | .addService _ _ => some .services
  | .updateService _ _ => some .services
  | .updateNetwork _ _ => some .networks
  | .updateVolume _ _ => some .volumes
  | .writeManifest _ => none

section Parts

variable {stack : Stack} {target : Target}

theorem part_withPart_other (part : target.Part) {other : Target} (differs : other ≠ target) :
    (stack.withPart part).part other = stack.part other := by
  cases target <;> cases other <;> first | rfl | exact absurd rfl differs

/-- A stack is all of its parts, with its name, its files and its phase. -/
theorem eq_of_parts {first second : Stack} (names : first.name = second.name)
    (paths : first.paths = second.paths) (phases : first.phase = second.phase)
    (parts : ∀ target, first.part target = second.part target) : first = second := by
  obtain ⟨services, mains⟩ := Prod.ext_iff.mp (parts .services)
  have environments : first.environment = second.environment := parts .environment
  have envFiles : first.envFiles = second.envFiles := parts .envFiles
  have networks : first.networks = second.networks := parts .networks
  have volumes : first.volumes = second.volumes := parts .volumes
  have secrets : first.secrets = second.secrets := parts .secrets
  have configs : first.configs = second.configs := parts .configs
  obtain ⟨⟩ := first
  obtain ⟨⟩ := second
  simp_all [part]

/-- The name, the files and the phase of a stack are not changed by any step. -/
theorem Step.frame {after : Stack} (step : stack.Step after) :
    (after.name, after.paths, after.phase) = (stack.name, stack.paths, stack.phase) := by
  cases step <;> rfl

end Parts

/-! ### One operation -/

/-- The edit of a service makes calls that are the same whatever the lookup is; each may come with
the lookup that the update gives or with another one. All other operations are fixed anyway. -/
def Operation.Fixed : Operation → Prop
  | .updateService _ change => ∃ calls : List ((EntityLookup → EntityLookup) × Service.Setting),
      ∀ lookup, (change lookup).edit =
        calls.forM fun call => Service.Setting.edit (call.1 lookup) call.2
  | _ => True

/-- Calls with the lookup that the update gives are fixed. -/
theorem fixed_calls (name : String) (settings : List Service.Setting) :
    (Operation.calls name settings).Fixed := by
  refine ⟨settings.map fun setting => (id, setting), fun lookup => ?_⟩
  show settings.forM (Service.Setting.edit lookup) = _
  rw [forM_map]
  rfl

section Operations

variable {operation : Operation} {target : Target} {before after : Stack}

theorem setEnv_accepts {key value : String} : (setEnv key value).Accepts before after ↔
    isVariableName key = true ∧
      after = { before with environment := before.environment.insert key value } := by
  simp [setEnv, Validation.variableName, Validation.ensure_eq_ok]

theorem addEnvFile_accepts {path : String} : (addEnvFile path).Accepts before after ↔
    Validation.present "env_file" "path" path = .ok () ∧ before.paths.knows path = true ∧
      after = { before with envFiles := Service.appendNew before.envFiles path } := by
  simp [addEnvFile, Validation.ensure_eq_ok]

/-- **An accepted operation changes the part that it is about**, and no other one. -/
theorem accepted_withPart (about : operation.target? = some target)
    (accepted : operation.edit.Accepts before after) :
    ∃ part : target.Part, after = before.withPart part := by
  cases operation with
  | setEnv key value =>
    cases about
    exact ⟨_, (setEnv_accepts.mp accepted).2⟩
  | addEnvFile path =>
    cases about
    exact ⟨_, (addEnvFile_accepts.mp accepted).2.2⟩
  | setMainService name =>
    cases about
    exact ⟨(before.services, _), (setMainService_accepts.mp accepted).2.2⟩
  | createService name spec =>
    cases about
    obtain ⟨_, _, _, _, same⟩ := createService_accepts.mp accepted
    exact ⟨(_, _), same⟩
  | createNetwork name spec =>
    cases about
    obtain ⟨_, _, _, same⟩ := Shelf.networks.accepts.mp accepted
    exact ⟨_, same⟩
  | createVolume name spec =>
    cases about
    obtain ⟨_, _, _, same⟩ := Shelf.volumes.accepts.mp accepted
    exact ⟨_, same⟩
  | createSecret name spec =>
    cases about
    obtain ⟨_, _, _, same⟩ := Shelf.secrets.accepts.mp accepted
    exact ⟨_, same⟩
  | createConfig name spec =>
    cases about
    obtain ⟨_, _, _, same⟩ := Shelf.configs.accepts.mp accepted
    exact ⟨_, same⟩
  | addService service built =>
    cases about
    exact ⟨(_, before.mainService), (addService_accepts.mp accepted).2.2⟩
  | updateService name change =>
    cases about
    obtain ⟨_, _, _, _, _, _, same⟩ :=
      (updateService_settles name fun lookup => (change lookup).edit).of_accepted accepted
    exact ⟨(_, before.mainService), same⟩
  | updateNetwork name change =>
    cases about
    obtain ⟨_, _, _, _, _, same⟩ := (updateNetwork_settles name change.edit).of_accepted accepted
    exact ⟨_, same⟩
  | updateVolume name change =>
    cases about
    obtain ⟨_, _, _, _, _, same⟩ := (updateVolume_settles name change.edit).of_accepted accepted
    exact ⟨_, same⟩
  | writeManifest write => cases about

/-- What is created on a shelf depends on the shelf alone. -/
theorem Shelf.concurs {α Spec : Type} (shelf : Shelf α Spec) {name : String} {spec : Spec}
    (agrees : ∀ first second, Agrees (shelf.make first name spec) (shelf.make second name spec))
    {one two left right : Stack} (same : shelf.registry one = shelf.registry two)
    (first : (shelf.create name spec).Accepts one left)
    (second : (shelf.create name spec).Accepts two right) :
    shelf.registry left = shelf.registry right := by
  obtain ⟨_, entity, made, rfl⟩ := shelf.accepts.mp first
  obtain ⟨_, other, madeToo, rfl⟩ := shelf.accepts.mp second
  cases agrees _ _ entity other made madeToo
  rw [shelf.registry_with, shelf.registry_with, same]

section Updates

variable {one two left right : Stack} {name : String}

/-- What an update makes of a service depends on the services alone, if its edits concur. -/
theorem updateService_concurs {edit : EntityLookup → Edit Service Unit}
    (concurs : ∀ first second, (edit first).Concurs (edit second))
    (same : one.part .services = two.part .services)
    (first : (updateService name edit).Accepts one left)
    (second : (updateService name edit).Accepts two right) :
    left.part .services = right.part .services := by
  obtain ⟨service, _, edited, found, ran, _, rfl⟩ :=
    (updateService_settles name edit).of_accepted first
  obtain ⟨other, _, editedToo, foundToo, ranToo, _, rfl⟩ :=
    (updateService_settles name edit).of_accepted second
  have services : one.services = two.services := (Prod.ext_iff.mp same).1
  rw [services] at found
  cases Option.some.inj (found.symm.trans foundToo)
  cases concurs _ _ service edited editedToo ran ranToo
  exact congrArg (fun part : Registry Service × Option String =>
    (part.1.put edited.name edited, part.2)) same

theorem updateNetwork_concurs {edit : Edit Network Unit} (same : one.networks = two.networks)
    (first : (updateNetwork name edit).Accepts one left)
    (second : (updateNetwork name edit).Accepts two right) : left.networks = right.networks := by
  obtain ⟨network, _, edited, found, ran, rfl⟩ :=
    (updateNetwork_settles name edit).of_accepted first
  obtain ⟨other, _, editedToo, foundToo, ranToo, rfl⟩ :=
    (updateNetwork_settles name edit).of_accepted second
  rw [same] at found
  cases Option.some.inj (found.symm.trans foundToo)
  cases Concurs.refl edit network edited editedToo ran ranToo
  exact congrArg (fun networks : Registry Network => networks.put edited.name edited) same

theorem updateVolume_concurs {edit : Edit Volume Unit} (same : one.volumes = two.volumes)
    (first : (updateVolume name edit).Accepts one left)
    (second : (updateVolume name edit).Accepts two right) : left.volumes = right.volumes := by
  obtain ⟨volume, _, edited, found, ran, rfl⟩ :=
    (updateVolume_settles name edit).of_accepted first
  obtain ⟨other, _, editedToo, foundToo, ranToo, rfl⟩ :=
    (updateVolume_settles name edit).of_accepted second
  rw [same] at found
  cases Option.some.inj (found.symm.trans foundToo)
  cases Concurs.refl edit volume edited editedToo ran ranToo
  exact congrArg (fun volumes : Registry Volume => volumes.put edited.name edited) same

end Updates

/-- **What an accepted operation makes of its part** depends on that part alone. -/
theorem accepted_concurs (about : operation.target? = some target) (fixed : operation.Fixed)
    {one two left right : Stack} (same : one.part target = two.part target)
    (first : operation.edit.Accepts one left) (second : operation.edit.Accepts two right) :
    left.part target = right.part target := by
  cases operation with
  | setEnv key value =>
    cases about
    obtain ⟨_, rfl⟩ := setEnv_accepts.mp first
    obtain ⟨_, rfl⟩ := setEnv_accepts.mp second
    exact congrArg (fun environment : OrderedMap String => environment.insert key value) same
  | addEnvFile path =>
    cases about
    obtain ⟨_, _, rfl⟩ := addEnvFile_accepts.mp first
    obtain ⟨_, _, rfl⟩ := addEnvFile_accepts.mp second
    exact congrArg (fun files : List String => Service.appendNew files path) same
  | setMainService name =>
    cases about
    obtain ⟨_, _, rfl⟩ := setMainService_accepts.mp first
    obtain ⟨_, _, rfl⟩ := setMainService_accepts.mp second
    exact congrArg (fun part : Registry Service × Option String => (part.1, some name)) same
  | createService name spec =>
    cases about
    obtain ⟨_, _, service, made, rfl⟩ := createService_accepts.mp first
    obtain ⟨_, _, other, madeToo, rfl⟩ := createService_accepts.mp second
    cases Service.ofSpec_agrees _ _ name spec service other made madeToo
    exact congrArg (fun part : Registry Service × Option String =>
      (part.1.put name service, if spec.isMain then some name else part.2)) same
  | createNetwork name spec =>
    cases about
    exact Shelf.concurs Shelf.networks (fun _ _ => .refl _) same first second
  | createVolume name spec =>
    cases about
    exact Shelf.concurs Shelf.volumes (fun _ _ => .refl _) same first second
  | createSecret name spec =>
    cases about
    exact Shelf.concurs Shelf.secrets (Secret.ofSpec_agrees name spec) same first second
  | createConfig name spec =>
    cases about
    exact Shelf.concurs Shelf.configs (ConfigFile.ofSpec_agrees name spec) same first second
  | addService service built =>
    cases about
    obtain ⟨_, _, rfl⟩ := addService_accepts.mp first
    obtain ⟨_, _, rfl⟩ := addService_accepts.mp second
    exact congrArg (fun part : Registry Service × Option String =>
      (part.1.put service.name service, part.2)) same
  | updateService name change =>
    cases about
    obtain ⟨calls, isFixed⟩ := fixed
    have concurs (one two : EntityLookup) : (change one).edit.Concurs (change two).edit := by
      rw [isFixed, isFixed]
      exact .forM_list (fun call => Service.setting_concurs _ _ call.2) calls
    exact updateService_concurs concurs same first second
  | updateNetwork name change =>
    cases about
    exact updateNetwork_concurs same first second
  | updateVolume name change =>
    cases about
    exact updateVolume_concurs same first second
  | writeManifest write => cases about

/-- **An accepted operation leaves all other parts alone.** -/
theorem accepted_others (other : operation.target? ≠ some target)
    (accepted : operation.edit.Accepts before after) : after.part target = before.part target := by
  cases about : operation.target? with
  | none =>
    cases operation with
    | writeManifest write =>
      have unmoved : ((Operation.writeManifest write).edit.apply before).2 = before :=
        writeManifest_asks write before
      rw [accepted] at unmoved
      exact congrArg (fun stack : Stack => stack.part target) unmoved
    | _ => cases about
  | some found =>
    obtain ⟨part, rfl⟩ := accepted_withPart about accepted
    exact part_withPart_other part fun same => other (same ▸ about)

end Operations

/-! ### Runs -/

/-- An operation on a part, cut out of a stack in which it is accepted. -/
def PartStep {target : Target} (operation : Operation) (before after : target.Part) : Prop :=
  ∃ stack left, operation.edit.Accepts stack left ∧
    stack.part target = before ∧ left.part target = after

/-- Operations on a part, one after the other. -/
inductive PartRun {target : Target} : List Operation → target.Part → target.Part → Prop where
  | done (part : target.Part) : PartRun [] part part
  | step {operation : Operation} {rest : List Operation} {before between after : target.Part}
    (here : PartStep operation before between) (later : PartRun rest between after) :
    PartRun (operation :: rest) before after

variable {target : Target} {operations : List Operation}

/-- **A run of a stack is a run of each of its parts**, of the operations that are about it. -/
theorem PartRun.of_run {start left : Stack}
    (ran : (operations.forM Operation.edit).Accepts start left) :
    PartRun (operations.filter fun operation => operation.target? = some target)
      (start.part target) (left.part target) := by
  induction operations generalizing start with
  | nil =>
    cases accepts_pure.mp ran
    exact .done _
  | cons operation rest ih =>
    obtain ⟨between, here, later⟩ := accepts_forM_cons.mp ran
    by_cases about : operation.target? = some target
    · rw [List.filter_cons_of_pos (by simpa using about)]
      exact .step ⟨start, between, here, rfl, rfl⟩ (ih later)
    · rw [List.filter_cons_of_neg (by simpa using about), ← accepted_others about here]
      exact ih later

/-- **Nothing but a part and its operations** has an influence on what they make of it. -/
theorem PartRun.unique (about : ∀ operation ∈ operations, operation.target? = some target)
    (fixed : ∀ operation ∈ operations, operation.Fixed) {before after other : target.Part}
    (ran : PartRun operations before after) (ranToo : PartRun operations before other) :
    after = other := by
  induction ran with
  | done => cases ranToo; rfl
  | step here later ih =>
    cases ranToo with
    | step hereToo laterToo =>
      obtain ⟨one, left, accepted, rfl, rfl⟩ := here
      obtain ⟨two, right, acceptedToo, same, rfl⟩ := hereToo
      have between := accepted_concurs (about _ List.mem_cons_self) (fixed _ List.mem_cons_self)
        same.symm accepted acceptedToo
      rw [← between] at laterToo
      exact ih (fun _ member => about _ (List.mem_cons_of_mem _ member))
        (fun _ member => fixed _ (List.mem_cons_of_mem _ member)) laterToo

/-- What no part holds is the same after every run. -/
theorem run_frame {start left : Stack}
    (ran : (operations.forM Operation.edit).Accepts start left) :
    (left.name, left.paths, left.phase) = (start.name, start.paths, start.phase) := by
  let holds (stack : Stack) : Prop :=
    (stack.name, stack.paths, stack.phase) = (start.name, start.paths, start.phase)
  have kept (operation : Operation) (before after : Stack)
      (accepted : operation.edit.Accepts before after) (here : holds before) : holds after :=
    ((operation_settles before operation).of_accepted accepted).frame.trans here
  exact ran.forM_keeps kept rfl

end Stack

/-- **Only the order within each kind matters.** Two runs of accepted operations from one stack,
which have the same operations on each part in the same order, lead to the same stack, and so to the
same manifest; in between, the operations on other parts may come at any time. The edits of services
make fixed calls, each with the lookup that the update gives or with another one. -/
theorem order_within_kinds {start left right : Stack} {first second : List Stack.Operation}
    (fixed : ∀ operation ∈ first, operation.Fixed)
    (same : ∀ target, (first.filter fun operation => operation.target? = some target) =
      second.filter fun operation => operation.target? = some target)
    (ranFirst : (first.forM Stack.Operation.edit).Accepts start left)
    (ranSecond : (second.forM Stack.Operation.edit).Accepts start right) :
    left = right ∧ Stack.renderManifest.apply left = Stack.renderManifest.apply right := by
  have parts (target : Stack.Target) : left.part target = right.part target := by
    have ranToo : Stack.PartRun _ (start.part target) (right.part target) := .of_run ranSecond
    rw [← same] at ranToo
    refine Stack.PartRun.unique (fun operation member => ?_) (fun operation member => ?_)
      (Stack.PartRun.of_run ranFirst) ranToo
    · simpa using List.of_mem_filter member
    · exact fixed operation (List.mem_of_mem_filter member)
  have frames := (Stack.run_frame ranFirst).trans (Stack.run_frame ranSecond).symm
  simp only [Prod.mk.injEq] at frames
  obtain ⟨names, paths, phases⟩ := frames
  have equal := Stack.eq_of_parts names paths phases parts
  exact ⟨equal, congrArg Stack.renderManifest.apply equal⟩

/-- A stack that was just created. -/
def Stack.shop : Stack :=
  ⟨"shop", .empty, [], .empty, .empty, .empty, .empty, .empty, none, .everything, .idle⟩

section Example

variable {db : Service} (dbCreated : Service.create "db" = .ok db)

/-- A run that creates a volume before everything else. -/
def Stack.volumeFirst : List Stack.Operation :=
  [.createVolume "data" .bare,
    .addService _ (Service.assembled_built dbCreated .everything [.image "mysql"]),
    .calls "db" [.mount (.named "data" "/srv" none)],
    .setEnv "TZ" "UTC"]

/-- The same operations with the volume as late as possible. -/
def Stack.volumeLate : List Stack.Operation :=
  [.setEnv "TZ" "UTC",
    .addService _ (Service.assembled_built dbCreated .everything [.image "mysql"]),
    .createVolume "data" .bare,
    .calls "db" [.mount (.named "data" "/srv" none)]]

end Example

theorem order_within_kinds_volumeLate :
    Stack.create "shop" .everything = .ok Stack.shop ∧
    ∃ db left right, ∃ dbCreated : Service.create "db" = .ok db,
      ((Stack.volumeFirst dbCreated).forM Stack.Operation.edit).Accepts Stack.shop left ∧
      ((Stack.volumeLate dbCreated).forM Stack.Operation.edit).Accepts Stack.shop right ∧
      (Stack.volumeFirst dbCreated).map Stack.Operation.target? ≠
        (Stack.volumeLate dbCreated).map Stack.Operation.target? ∧
      left.services.toList.map Service.namedVolumes = [["data"]] ∧
      left = right ∧ Stack.renderManifest.apply left = Stack.renderManifest.apply right := by
  have fixed : ∀ operation ∈ Stack.volumeFirst rfl, operation.Fixed := by
    simp only [Stack.volumeFirst, List.forall_mem_cons]
    exact ⟨trivial, trivial, Stack.fixed_calls _ _, trivial, List.forall_mem_nil _⟩
  have ranFirst : ((Stack.volumeFirst rfl).forM Stack.Operation.edit).Accepts Stack.shop _ := rfl
  have ranLate : ((Stack.volumeLate rfl).forM Stack.Operation.edit).Accepts Stack.shop _ := rfl
  exact ⟨rfl, _, _, _, rfl, ranFirst, ranLate, by decide, by decide,
    order_within_kinds fixed (fun target => by cases target <;> rfl) ranFirst ranLate⟩

end ContainerStack
