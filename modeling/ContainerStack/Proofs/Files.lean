import ContainerStack.Proofs.Creating
import ContainerStack.Proofs.Integrity

/-!
**The files that a stack refers to.**

A stack knows which paths exist. Its own files of variables, those of its services, and the files of
its secrets and configs are all among them, whatever lookups its services were built with. The keys
of a build are not: they are looked up when the build is made and never again, so a service that was
built elsewhere brings the keys of elsewhere into the stack.

* `Build.ofSpec_keysKnown`: the keys of a build are there in the lookup that it was made with.
* `Stack.FilesKnown`: all files that are looked up by the stack itself exist.
* `Stack.Operation.KeysKnown`: what an operation must keep to for the keys to exist as well.
* `files_known`: what holds after every run, and when the keys are among it.
* `keyFile_unknown`: a run that leaves a key in the stack that does not exist.
-/

namespace ContainerStack

/-! ### Keys of builds -/

/-- The files of the keys of a build. -/
def Build.keyFiles (build : Build) : List String := build.ssh.values

theorem OrderedMap.mem_values_insert {α : Type} {entriesMap : OrderedMap α} {key : String}
    {value other : α} (member : other ∈ (entriesMap.insert key value).values) :
    other = value ∨ other ∈ entriesMap.values := by
  obtain ⟨entry, listed, rfl⟩ := List.mem_map.mp member
  rcases OrderedMap.mem_entries_insert listed with rfl | before
  · exact .inl rfl
  · exact .inr (List.mem_map_of_mem before)

theorem Build.withDockerfile_ssh {build next : Build} {dockerfile : String}
    (named : build.withDockerfile dockerfile = .ok next) : next.ssh = build.ssh := by
  obtain ⟨_, _, same⟩ := Edit.bind_eq_ok.mp named
  cases same
  rfl

theorem Build.withTarget_ssh {build next : Build} {target : String}
    (named : build.withTarget target = .ok next) : next.ssh = build.ssh := by
  obtain ⟨_, _, same⟩ := Edit.bind_eq_ok.mp named
  cases same
  rfl

/-- Arguments and keys come last; every key is looked up. -/
theorem Build.keysKnown_of_folds {args keys : List (String × String)} {lookup : EntityLookup}
    {build left : Build} (noKeys : build.ssh = .empty)
    (made : (do
      let build ← args.foldlM (fun (build : Build) arg => build.withArg arg.1 arg.2) build
      keys.foldlM (fun (build : Build) key => build.withSshKey key.1 key.2 lookup) build) =
        Except.ok left) :
    ∀ file ∈ left.keyFiles, lookup.pathExists file = true := by
  obtain ⟨argued, folded, made⟩ := Edit.bind_eq_ok.mp made
  have stillNoKeys : argued.ssh = .empty := by
    refine Edit.foldlM_keeps (fun build => build.ssh = .empty) (fun build arg next here set => ?_)
      folded noKeys
    obtain ⟨_, _, same⟩ := Edit.bind_eq_ok.mp set
    cases same
    exact here
  refine Edit.foldlM_keeps (fun build => ∀ file ∈ build.keyFiles, lookup.pathExists file = true)
    (fun build key next here added file member => ?_) made fun file member => ?_
  · obtain ⟨_, _, added⟩ := Edit.bind_eq_ok.mp added
    obtain ⟨_, known, same⟩ := Edit.bind_eq_ok.mp added
    cases same
    rcases OrderedMap.mem_values_insert member with rfl | before
    · exact Validation.ensure_eq_ok.mp known
    · exact here file before
  · rw [Build.keyFiles, stillNoKeys] at member
    cases member

/-- **The keys of a build are there in the lookup that it was made with.** -/
theorem Build.ofSpec_keysKnown {spec : Build.Spec} {lookup : EntityLookup} {build : Build}
    (made : Build.ofSpec spec lookup = .ok build) :
    ∀ file ∈ build.keyFiles, lookup.pathExists file = true := by
  obtain ⟨context, dockerfile, target, args, ssh⟩ := spec
  cases context with
  | none => cases made
  | some context =>
    obtain ⟨bare, begun, made⟩ := Edit.bind_eq_ok.mp made
    have noKeys : bare.ssh = .empty := by
      obtain ⟨_, _, same⟩ := Edit.bind_eq_ok.mp begun
      cases same
      rfl
    cases dockerfile with
    | none =>
      cases target with
      | none => exact Build.keysKnown_of_folds noKeys made
      | some target =>
        obtain ⟨_, same, made⟩ := Edit.bind_eq_ok.mp made
        cases same
        obtain ⟨_, named, made⟩ := Edit.bind_eq_ok.mp made
        exact Build.keysKnown_of_folds ((Build.withTarget_ssh named).trans noKeys) made
    | some dockerfile =>
      obtain ⟨_, filed, made⟩ := Edit.bind_eq_ok.mp made
      have noKeys := (Build.withDockerfile_ssh filed).trans noKeys
      cases target with
      | none => exact Build.keysKnown_of_folds noKeys made
      | some target =>
        obtain ⟨_, named, made⟩ := Edit.bind_eq_ok.mp made
        exact Build.keysKnown_of_folds ((Build.withTarget_ssh named).trans noKeys) made

namespace Service

/-- The files of the keys that the build of a service uses. -/
def keyFiles (service : Service) : List String :=
  match service.source with
  | some (.build build) => build.keyFiles
  | _ => []

/-- A call that gives a build gives one whose keys are known. -/
def Setting.KeysKnown (known : String → Bool) : Setting → Prop
  | .build given => ∀ file ∈ given.keyFiles, known file = true
  | _ => True

/-- The calls of setters, with whatever lookup, that give no build with keys which are not known. -/
def KeyedCalls (known : String → Bool) (edit : Edit Service Unit) : Prop :=
  ∃ lookup setting, setting.KeysKnown known ∧ edit = Setting.edit lookup setting

theorem KeyedCalls.keeps {known : String → Bool} {before after : Service}
    (leads : Edit.Leads (KeyedCalls known) before after)
    (start : ∀ file ∈ before.keyFiles, known file = true) :
    ∀ file ∈ after.keyFiles, known file = true := by
  refine leads.keeps (fun service => ∀ file ∈ service.keyFiles, known file = true)
    (fun edit call service here => ?_) start
  obtain ⟨lookup, setting, keys, rfl⟩ := call
  refine (setting_assigns setting).left
    (fun service => ∀ file ∈ service.keyFiles, known file = true) here fun _ => ?_
  cases setting with
  | image reference => exact nofun
  | build given => exact keys
  | port given =>
    rw [Setting.change_port]
    exact here
  | _ => exact here

/-- **The keys of the service of a definition are there in the lookup of the definition.** -/
theorem ofSpec_keysKnown {name : String} {spec : Spec} {lookup : EntityLookup} {service : Service}
    (made : ofSpec name spec lookup = .ok service) :
    ∀ file ∈ service.keyFiles, lookup.pathExists file = true := by
  have through : (applySpec spec lookup).Through (KeyedCalls lookup.pathExists) := by
    refine applySpec_through_made (fun setting made => ⟨lookup, setting, ?_, rfl⟩) spec
    cases setting with
    | build given =>
      obtain ⟨spec, made⟩ := made
      exact Build.ofSpec_keysKnown made
    | _ => trivial
  obtain ⟨start, created, leads⟩ := through.of_created made
  refine KeyedCalls.keeps leads ?_
  obtain ⟨_, _, same⟩ := Edit.bind_eq_ok.mp created
  cases same
  exact nofun

end Service

/-! ### Files that the stack looks up -/

theorem Registry.mem_toList_put {α : Type} {registry : Registry α} {name : String}
    {entity other : α} (member : other ∈ (registry.put name entity).toList) :
    other = entity ∨ other ∈ registry.toList := OrderedMap.mem_values_insert member

namespace Stack

/-- **The files that a stack looks up itself exist**: its own files of variables, those of its
services, and the files of its secrets and configs. -/
structure FilesKnown (stack : Stack) : Prop where
  envFiles : ∀ path ∈ stack.envFiles, stack.paths.knows path = true
  serviceFiles : ∀ service ∈ stack.services.toList, ∀ path ∈ service.envFiles,
    stack.paths.knows path = true
  secrets : ∀ secret ∈ stack.secrets.toList, ∀ path, secret.source = .file path →
    stack.paths.knows path = true
  configs : ∀ config ∈ stack.configs.toList, stack.paths.knows config.file = true

theorem secret_known {name : String} {spec : Secret.Spec} {lookup : EntityLookup} {secret : Secret}
    (made : Secret.ofSpec name spec lookup = .ok secret) :
    ∀ path, secret.source = .file path → lookup.pathExists path = true := by
  unfold Secret.ofSpec at made
  split at made
  · cases made
  · obtain ⟨_, _, made⟩ := Edit.bind_eq_ok.mp made
    obtain ⟨_, _, made⟩ := Edit.bind_eq_ok.mp made
    obtain ⟨_, known, same⟩ := Edit.bind_eq_ok.mp made
    cases same
    rintro _ ⟨⟩
    exact Validation.ensure_eq_ok.mp known
  · obtain ⟨_, _, same⟩ := Edit.bind_eq_ok.mp made
    cases same
    exact nofun
  · cases made

theorem config_known {name : String} {spec : ConfigFile.Spec} {lookup : EntityLookup}
    {config : ConfigFile} (made : ConfigFile.ofSpec name spec lookup = .ok config) :
    lookup.pathExists config.file = true := by
  unfold ConfigFile.ofSpec at made
  split at made
  · cases made
  · obtain ⟨_, _, made⟩ := Edit.bind_eq_ok.mp made
    obtain ⟨_, _, made⟩ := Edit.bind_eq_ok.mp made
    obtain ⟨_, known, same⟩ := Edit.bind_eq_ok.mp made
    cases same
    exact Validation.ensure_eq_ok.mp known

/-- **A step keeps the files known.** -/
theorem Step.filesKnown {before after : Stack} (sound : after.Sound) (step : before.Step after)
    (known : before.FilesKnown) : after.FilesKnown := by
  -- The check of all references looks at these files again whenever a service comes in.
  have serviceFiles : ∀ service ∈ after.services.toList, ∀ path ∈ service.envFiles,
      after.paths.knows path = true :=
    fun service member => (sound.services.of_mem member).2.envFiles
  cases step with
  | envFileAdded path there =>
    exact { known with
      envFiles := Service.all_appendNew known.envFiles there
      serviceFiles := serviceFiles }
  | secretAdded secret made =>
    obtain ⟨_, _, made⟩ := made
    refine { known with serviceFiles := serviceFiles, secrets := fun other member => ?_ }
    rcases Registry.mem_toList_put member with rfl | before
    · exact secret_known made
    · exact known.secrets other before
  | configAdded config made =>
    obtain ⟨_, _, made⟩ := made
    refine { known with serviceFiles := serviceFiles, configs := fun other member => ?_ }
    rcases Registry.mem_toList_put member with rfl | before
    · exact config_known made
    · exact known.configs other before
  | _ => exact { known with serviceFiles := serviceFiles }

theorem create_filesKnown {name : String} {paths : KnownPaths} {start : Stack}
    (created : create name paths = .ok start) : start.FilesKnown := by
  obtain ⟨_, _, created⟩ := Edit.bind_eq_ok.mp created
  obtain ⟨_, _, same⟩ := Edit.bind_eq_ok.mp created
  cases same
  constructor <;> exact fun _ member => absurd member List.not_mem_nil

/-! ### Keys that were looked up elsewhere -/

/-- The keys of the builds of all services exist. -/
def KeysKnown (stack : Stack) : Prop :=
  ∀ service ∈ stack.services.toList, ∀ file ∈ service.keyFiles, stack.paths.knows file = true

/-- The operation brings no key into the stack that is not known: a service that is added has none,
and an edit of a service gives it none. -/
def Operation.KeysKnown (known : String → Bool) : Operation → Prop
  | .addService service _ => ∀ file ∈ service.keyFiles, known file = true
  | .updateService _ change => ∀ lookup, (change lookup).edit.Through (Service.KeyedCalls known)
  | _ => True

/-- Every service after an operation was there before, or has keys that are known. -/
theorem operation_services {stack : Stack} (operation : Operation)
    (keys : operation.KeysKnown stack.paths.knows) (known : stack.KeysKnown) :
    operation.edit.Settles stack fun next => ∀ service ∈ next.services.toList,
      ∀ file ∈ service.keyFiles, stack.paths.knows file = true := by
  have kept {next : Stack} (same : next.services = stack.services) :
      ∀ service ∈ next.services.toList, ∀ file ∈ service.keyFiles,
        stack.paths.knows file = true := same ▸ known
  have put {name : String} {entered : Service}
      (fine : ∀ file ∈ entered.keyFiles, stack.paths.knows file = true) :
      ∀ service ∈ (stack.services.put name entered).toList, ∀ file ∈ service.keyFiles,
        stack.paths.knows file = true := by
    intro service member
    rcases Registry.mem_toList_put member with rfl | before
    · exact fine
    · exact known service before
  cases operation with
  | setEnv key value => exact .lift fun _ _ => .modify (kept rfl)
  | addEnvFile path => exact .get (.lift fun _ _ => .lift fun _ _ => .set (kept rfl))
  | setMainService name => exact .get (.lift fun _ _ => .lift fun _ _ => .set (kept rfl))
  | createService name spec =>
    refine .of_accepts (.of_settles fun _ => createService_settles name spec) fun next entered => ?_
    obtain ⟨_, _, service, made, rfl⟩ := createService_accepts.mp entered
    exact put (Service.ofSpec_keysKnown made)
  | createNetwork name spec =>
    exact .get (.lift fun _ _ => .lift fun _ _ => .lift fun _ _ => .set (kept rfl))
  | createVolume name spec =>
    exact .get (.lift fun _ _ => .lift fun _ _ => .lift fun _ _ => .set (kept rfl))
  | createSecret name spec =>
    exact .get (.lift fun _ _ => .lift fun _ _ => .lift fun _ _ => .set (kept rfl))
  | createConfig name spec =>
    exact .get (.lift fun _ _ => .lift fun _ _ => .lift fun _ _ => .set (kept rfl))
  | addService service built =>
    refine .get (.lift fun _ _ => .lift fun _ _ => .lift fun services registered => ?_)
    obtain ⟨_, rfl⟩ := Registry.register_eq_ok.mp registered
    exact .set (put keys)
  | updateService name change =>
    refine (updateService_settles name fun lookup => (change lookup).edit).mono fun after step => ?_
    obtain ⟨service, answer, edited, found, ran, _, rfl⟩ := step
    have leads := (keys stack.lookup).leads ran
    refine put (Service.KeyedCalls.keeps leads (known service ?_))
    exact List.mem_map_of_mem (Registry.get?_eq_some.mp found)
  | updateNetwork name change =>
    refine (updateNetwork_settles name change.edit).mono fun after step => ?_
    obtain ⟨_, _, _, _, _, rfl⟩ := step
    exact kept rfl
  | updateVolume name change =>
    refine (updateVolume_settles name change.edit).mono fun after step => ?_
    obtain ⟨_, _, _, _, _, rfl⟩ := step
    exact kept rfl
  | writeManifest write => exact .of_asks (writeManifest_asks write) (kept rfl)

theorem operation_paths (stack : Stack) (operation : Operation) :
    (operation.edit.apply stack).2.paths = stack.paths := by
  have settles : operation.edit.Settles stack fun next => next.paths = stack.paths :=
    (operation_settles stack operation).mono fun _ step => step.grows.paths
  exact settles.left rfl

/-- **Operations that bring no unknown keys keep the keys known.** -/
theorem run_keysKnown (operations : List Operation) {stack : Stack} (known : stack.KeysKnown)
    (keys : ∀ operation ∈ operations, operation.KeysKnown stack.paths.knows) :
    (stack.run operations).KeysKnown := by
  induction operations generalizing stack with
  | nil => exact known
  | cons operation rest ih =>
    have paths := operation_paths stack operation
    show ((operation.edit.apply stack).2.run rest).KeysKnown
    refine ih ?_ fun other member => ?_
    · intro service member
      rw [paths]
      exact (operation_services operation (keys operation List.mem_cons_self) known).left known
        service member
    · rw [paths]
      exact keys other (List.mem_cons_of_mem operation member)

end Stack

/-- **Files that a stack looks up itself exist.** After every run of operations on a new stack the
files of variables of the stack and of its services, whatever lookups the services were built with,
and the files of its secrets and configs are known to the stack. The keys of builds are if no
operation brings in one that is not: nothing looks them up when a service comes from elsewhere. -/
theorem files_known {name : String} {paths : KnownPaths} {start : Stack}
    (created : Stack.create name paths = .ok start) (operations : List Stack.Operation) :
    (start.run operations).paths = paths ∧ (start.run operations).FilesKnown ∧
      ((∀ operation ∈ operations, operation.KeysKnown paths.knows) →
        (start.run operations).KeysKnown) := by
  have begun : start.paths = paths ∧ start.KeysKnown := by
    obtain ⟨_, _, created⟩ := Edit.bind_eq_ok.mp created
    obtain ⟨_, _, same⟩ := Edit.bind_eq_ok.mp created
    cases same
    exact ⟨rfl, fun _ member => absurd member List.not_mem_nil⟩
  refine ⟨?paths, ?files, fun keys => ?keys⟩
  case paths =>
    exact Stack.run_keeps (fun _ _ same step => step.grows.paths.trans same) operations begun.1
  case files =>
    have kept (before after : Stack) (known : before.Sound ∧ before.FilesKnown)
        (step : before.Step after) : after.Sound ∧ after.FilesKnown :=
      ⟨step.sound known.1, step.filesKnown (step.sound known.1) known.2⟩
    exact (Stack.run_keeps kept operations
      ⟨Stack.create_sound created, Stack.create_filesKnown created⟩).2
  case keys => exact Stack.run_keysKnown operations begun.2 (begun.1 ▸ keys)

/-- A build that uses one key. -/
def Build.keyed : Build :=
  ⟨"./api", none, none, .empty, .ofList [("default", "/keys/id")]⟩

/-- A run that adds a service with a key and a file of variables. -/
def Stack.keyedRun {web : Service} (webCreated : Service.create "web" = .ok web) :
    List Stack.Operation :=
  [.addEnvFile "common.env",
    .addService _ (Service.assembled_built webCreated .everything
      [.build Build.keyed, .envFile "web.env"])]

theorem files_known_keyedRun :
    ∃ start web, ∃ (webCreated : Service.create "web" = .ok web),
      Stack.create "shop" .everything = .ok start ∧
      let left := start.run (Stack.keyedRun webCreated)
      (left.services.toList.map fun service => (service.envFiles, service.keyFiles)) =
          [(["web.env"], ["/keys/id"])] ∧
      left.FilesKnown ∧ left.KeysKnown := by
  have created : Stack.create "shop" .everything = .ok _ := rfl
  refine ⟨_, _, rfl, created, by decide, ?_⟩
  obtain ⟨_, files, keys⟩ := files_known created (Stack.keyedRun rfl)
  refine ⟨files, keys fun operation member => ?_⟩
  rcases List.mem_cons.mp member with rfl | member
  · trivial
  · cases List.mem_singleton.mp member
    exact fun _ _ => rfl

/-- **A key may come from elsewhere.** A build is made where its key exists, and the service with
this build is added to a stack that knows no path at all; the stack then names the key. -/
theorem keyFile_unknown :
    ∃ start web, ∃ (webCreated : Service.create "web" = .ok web),
      Stack.create "shop" (.ofList []) = .ok start ∧
      Build.ofSpec ⟨some "./api", none, none, .empty, .ofList [("default", "/keys/id")]⟩
        .everything = .ok Build.keyed ∧
      let left := start.run [.addService _ (Service.assembled_built webCreated .everything
        [.build Build.keyed])]
      ∃ service ∈ left.services.toList, ∃ file ∈ service.keyFiles,
        left.paths.knows file = false := by
  refine ⟨_, _, rfl, rfl, rfl, ?_⟩
  decide

end ContainerStack
