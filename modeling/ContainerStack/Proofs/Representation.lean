import ContainerStack.Proofs.Admission
import ContainerStack.Proofs.Integrity

/-!
**What every service is like.**

The setters of a service keep some things out of it: a second mount at a path, a network beside a
network mode, a dependency on itself. Each setter checks for its own part what the others rely on,
and repeats are ignored, refused or overwritten, as the case may be.

* `Deployment.Built`: made by the constructors and the setters of deployments.
  `Built.consistent`: the number of copies is never given where there is one on every machine.
* `Service.Deployed`: the calls of setters whose deployments are built.
* `Service.Tidy`: what holds of the lists of a service, of its logging and of its deployment.
  `Tidy.change` is about one call, `leads_tidy` about a chain of calls.
* `Service.Sound`: all that holds of every service that was made and changed by setters.
* `services_sound`: it does hold.
-/

namespace ContainerStack

open Edit

/-! ### Deployments -/

namespace Deployment

/-- The calls of setters. -/
def Calls (edit : Edit Deployment Unit) : Prop := ∃ setting : Setting, edit = setting.edit

/-- A call is accepted for a deployment. -/
def Setting.Admits (deployment : Deployment) : Setting → Prop
  | .mode given => ¬ (given = .onEveryNode ∧ deployment.replicas.isSome = true)
  | .replicas _ => deployment.mode ≠ some .onEveryNode
  | .restartPolicy policy => TaskRestart.checkTimes policy.delay policy.window = .ok ()
  | .constraint text =>
    Validation.present "deploy placement" "constraint" text = .ok () ∧
      (Text.holds "==" text || Text.holds "!=" text) = true
  | .label key _ => Validation.labelKey key = .ok ()
  | .resources _ => True

/-- **A call of a setter is accepted exactly where it is admitted**, and then makes its change. -/
theorem setting_guarded (setting : Setting) :
    setting.edit.Guarded (setting.Admits ·) (setting.change ·) := by
  intro before after
  cases setting with
  | mode given =>
    simp only [Setting.edit, setMode, accepts_get_bind, Setting.Admits, Setting.change]
    split <;> simp_all
  | replicas number =>
    simp only [Setting.edit, setReplicas, accepts_get_bind, Setting.Admits, Setting.change]
    split <;> simp_all
  | resources given => simp [Setting.edit, setResources, Setting.Admits, Setting.change]
  | restartPolicy policy => simp [Setting.edit, setRestartPolicy, Setting.Admits, Setting.change]
  | constraint text =>
    simp [Setting.edit, addConstraint, Setting.Admits, Setting.change, Validation.ensure_eq_ok,
      and_assoc]
  | label key value => simp [Setting.edit, addLabel, Setting.Admits, Setting.change]

/-- The policy of a definition has passed the check that the setter makes. -/
theorem checkTimes_of_ofSpec {spec : TaskRestart.Spec} {policy : TaskRestart}
    (made : TaskRestart.ofSpec spec = .ok policy) :
    TaskRestart.checkTimes policy.delay policy.window = .ok () := by
  obtain ⟨_, checked, made⟩ := bind_eq_ok.mp made
  obtain ⟨_, _, same⟩ := bind_eq_ok.mp made
  cases same
  exact checked

/-- **A definition is applied by calls of setters.** Its restart policy is assigned as it was read,
which is what the setter would do. -/
theorem applySpec_through (spec : Spec) : (applySpec spec).Through Calls := by
  have through (setting : Setting) : setting.edit.Through Calls := .of_move ⟨setting, rfl⟩
  refine .bind (.forM_option (fun mode => .lift_bind _ fun mode =>
    through (.mode mode)) _) fun _ => ?_
  refine .bind (.forM_option (fun number => through (.replicas number)) _) fun _ => ?_
  refine .bind (.forM_option (fun resources => .lift_bind _ fun resources =>
    through (.resources resources)) _) fun _ => ?_
  refine .bind (.forM_option (fun policy => .read_bind fun checked made deployment =>
    ?restart) _) fun _ => ?_
  case restart =>
    have set : (setRestartPolicy checked).apply deployment =
        (.ok (), { deployment with restartPolicy := some checked }) :=
      (setting_guarded (.restartPolicy checked) deployment _).mpr ⟨checkTimes_of_ofSpec made, rfl⟩
    have leads := through (.restartPolicy checked) deployment
    rw [Setting.edit, set] at leads
    exact leads
  refine .bind (.forM_list (fun text => through (.constraint text)) _) fun _ => ?_
  exact .forM_list (fun (key, value) => through (.label key value)) _

/-- The deployment was made, empty or from a definition, and then changed by setters. -/
def Built (deployment : Deployment) : Prop :=
  ∃ start, (start = .empty ∨ ∃ spec, ofSpec spec = .ok start) ∧ Leads Calls start deployment

/-- The number of copies is not given where there is one on every machine. -/
def Consistent (deployment : Deployment) : Prop :=
  ¬ (deployment.mode = some .onEveryNode ∧ deployment.replicas.isSome = true)

/-- **Every accepted call keeps a deployment consistent**: each of the two settings looks for the
other one. -/
theorem Consistent.change {deployment : Deployment} {setting : Setting}
    (consistent : deployment.Consistent) (admitted : setting.Admits deployment) :
    (setting.change deployment).Consistent := by
  cases setting with
  | mode given => exact fun both => admitted ⟨Option.some.inj both.1, both.2⟩
  | replicas number => exact fun both => admitted both.1
  | _ => exact consistent

theorem leads_consistent {before after : Deployment} (leads : Leads Calls before after)
    (consistent : before.Consistent) : after.Consistent := by
  refine leads.keeps Consistent (fun edit call deployment here => ?_) consistent
  obtain ⟨setting, rfl⟩ := call
  exact (setting_guarded setting).left (.of_settles fun _ => setting_assigns setting) here
    here.change

/-- The deployment of a definition is where setters lead from the empty one. -/
theorem leads_of_ofSpec {spec : Spec} {deployment : Deployment}
    (made : ofSpec spec = .ok deployment) : Leads Calls .empty deployment := by
  rw [ofSpec] at made
  cases ran : (applySpec spec).onCopy .empty with
  | error fault =>
    rw [ran] at made
    cases made
  | ok result =>
    obtain ⟨answer, left⟩ := result
    rw [ran] at made
    cases made
    have leads := applySpec_through spec .empty
    rwa [onCopy_eq_ok.mp ran] at leads

/-- **A deployment that was built** is consistent. -/
theorem Built.consistent {deployment : Deployment} (built : deployment.Built) :
    deployment.Consistent := by
  have empty : Deployment.empty.Consistent := nofun
  obtain ⟨start, rfl | ⟨spec, made⟩, leads⟩ := built
  · exact leads_consistent leads empty
  · exact leads_consistent leads (leads_consistent (leads_of_ofSpec made) empty)

end Deployment

/-! ### Services -/

/-- A list stays without repeats if what is appended to it differs from all that is there. -/
theorem nodup_map_append {α : Type} {key : α → String} {items : List α} {item : α}
    (distinct : (items.map key).Nodup)
    (free : (items.any fun other => key other == key item) = false) :
    ((items ++ [item]).map key).Nodup := by
  rw [List.map_append, List.map_singleton]
  exact distinct.append (List.nodup_singleton (key item)) (by simpa using free)

/-- A mode that is written as one that points at a service points at it. -/
theorem NetworkMode.target_of_text {mode : NetworkMode} {name : String}
    (written : mode.text = "service:" ++ name) : mode.target? = some name := by
  have initial : mode.text.toList.head? = some 's' := by simp [written]
  cases mode with
  | service other => exact congrArg some ((String.append_right_inj "service:").mp written)
  | _ => simp [text] at initial

namespace Service

theorem nodup_appendNew {items : List String} (distinct : items.Nodup) (item : String) :
    (appendNew items item).Nodup := by
  unfold appendNew
  split
  · exact distinct
  · rename_i new
    exact distinct.append (List.nodup_singleton item) (by simpa using new)

/-- A call whose deployment, if it gives one, is built. -/
def Setting.Deployed : Setting → Prop
  | .deploy given => given.Built
  | _ => True

/-- The calls of setters, with whatever lookup, whose deployments are built. -/
def DeployedCalls (edit : Edit Service Unit) : Prop :=
  ∃ lookup setting, setting.Deployed ∧ edit = Setting.edit lookup setting

/-- What the setters keep out of the lists, the logging and the deployment of a service. -/
structure Tidy (service : Service) : Prop where
  paths : (service.mounts.map Mount.containerPath).Nodup
  absolute : ∀ mount ∈ service.mounts, mount.containerPath.toList.head? = some '/'
  envFiles : service.envFiles.Nodup
  networks : service.networks.Nodup
  externalLinks : service.externalLinks.Nodup
  secrets : service.secrets.Nodup
  configs : (service.configs.map ConfigReference.source).Nodup
  securityOptions : service.securityOptions.Nodup
  logging : ∀ logging ∈ service.logging, logging.validate = .ok ()
  deploy : ∀ deploy ∈ service.deploy, deploy.Consistent

/-- **Every accepted call keeps a service tidy.** -/
theorem Tidy.change {service : Service} {lookup : EntityLookup} {setting : Setting}
    (tidy : service.Tidy) (deployed : setting.Deployed) (admitted : setting.Admits lookup service) :
    (setting.change service).Tidy := by
  cases setting with
  | port given =>
    rw [Setting.change_port]
    exact { tidy with }
  | mount given =>
    refine { tidy with
      paths := nodup_map_append tidy.paths admitted.2.2
      absolute := fun mount member => ?_ }
    rcases List.mem_append.mp member with before | new
    · exact tidy.absolute mount before
    · cases List.mem_singleton.mp new
      exact Validation.head_of_containerPath admitted.1
  | envFile path => exact { tidy with envFiles := nodup_appendNew tidy.envFiles path }
  | network name => exact { tidy with networks := nodup_appendNew tidy.networks name }
  | externalLink link =>
    exact { tidy with externalLinks := nodup_appendNew tidy.externalLinks link }
  | secret name => exact { tidy with secrets := nodup_appendNew tidy.secrets name }
  | config reference => exact { tidy with configs := nodup_map_append tidy.configs admitted.2 }
  | securityOption given =>
    exact { tidy with securityOptions := nodup_appendNew tidy.securityOptions given }
  | logging given =>
    refine { tidy with logging := fun logging set => ?_ }
    cases set
    exact admitted
  | deploy given =>
    refine { tidy with deploy := fun deploy set => ?_ }
    cases set
    exact deployed.consistent
  | _ => exact { tidy with }

theorem leads_tidy {before after : Service} (leads : Leads DeployedCalls before after)
    (tidy : before.Tidy) : after.Tidy := by
  refine leads.keeps Tidy (fun edit call service here => ?_) tidy
  obtain ⟨lookup, setting, deployed, rfl⟩ := call
  exact (setting_guarded lookup setting).left (.of_settles fun _ => setting_assigns setting) here
    (here.change deployed)

theorem create_tidy {name : String} {service : Service} (created : create name = .ok service) :
    service.Tidy := by
  obtain ⟨_, _, same⟩ := bind_eq_ok.mp created
  cases same
  constructor
  case absolute | logging | deploy =>
    intro value member
    cases member
  all_goals exact List.nodup_nil

/-- The service was made, empty or from a definition, and then changed by setters, with whatever
lookups and with deployments that are built. -/
def Reached (service : Service) : Prop :=
  Made create DeployedCalls service ∨
    ∃ spec lookup, Made (ofSpec · spec lookup) DeployedCalls service

/-- **The service of a definition** is where such calls lead from the empty one. -/
theorem made_of_ofSpec {name : String} {spec : Spec} {lookup : EntityLookup} {service : Service}
    (made : ofSpec name spec lookup = .ok service) : Made create DeployedCalls service := by
  have through : (applySpec spec lookup).Through DeployedCalls := by
    refine applySpec_through_made (fun setting made => ⟨lookup, setting, ?_, rfl⟩) spec
    cases setting with
    | deploy given =>
      obtain ⟨spec, made⟩ := made
      exact ⟨given, .inr ⟨spec, made⟩, .refl given⟩
    | _ => trivial
  obtain ⟨start, created, leads⟩ := through.of_created made
  exact ⟨name, start, created, leads⟩

theorem Reached.made {service : Service} (reached : service.Reached) :
    Made create DeployedCalls service := by
  rcases reached with made | ⟨spec, lookup, made⟩
  · exact made
  · exact made.of_made fun _ _ => made_of_ofSpec

/-- **What holds of every service that is reached.** No two mounts have one path, and all paths are
absolute. No list has repeats, no config is used twice, and no service is waited for twice. A
service neither waits for itself nor is in its own network, and it joins no networks beside a
network mode. Its logging is accepted by its driver, and its deployment does not count copies where
there is one on every machine. -/
structure Sound (service : Service) : Prop extends service.Tidy where
  dependencies : service.dependsOn.keys.Nodup
  notItsDependency : service.name ∉ service.dependsOn.keys
  notItsNetwork : ∀ mode ∈ service.networkMode, mode.text ≠ "service:" ++ service.name
  networksAlone : service.networks ≠ [] → service.networkMode = none

theorem Tidy.sound {service : Service} (tidy : service.Tidy) (coherent : service.Coherent) :
    service.Sound :=
  { tidy with
    dependencies := service.dependsOn.keys_nodup
    notItsDependency := fun listed => coherent.notItsDependency service.name listed rfl
    notItsNetwork := fun mode set written => by
      refine coherent.notItsModeTarget service.name ?_ rfl
      rw [modeTarget?, Option.mem_def.mp set]
      exact NetworkMode.target_of_text written
    networksAlone := fun joined => coherent.modeOrNetworks.resolve_right joined }

end Service

/-- **Whatever calls of setters lead to, with whatever lookups, is a sound service**, whether it was
created empty or from a definition, and whether the calls were accepted or refused. -/
theorem services_sound {service : Service} (reached : service.Reached) : service.Sound := by
  obtain ⟨name, start, created, leads⟩ := reached.made
  have tidy := Service.leads_tidy leads (Service.create_tidy created)
  have calls : Leads Service.AnyCalls start service := by
    refine leads.mono fun edit call => ?_
    obtain ⟨lookup, setting, _, same⟩ := call
    exact ⟨lookup, setting, trivial, same⟩
  exact tidy.sound (Service.leads_coherent calls (Service.create_eq_ok created).2.1)

/-- A deployment with two copies, for which one on every machine is refused. -/
def Deployment.counted : Deployment :=
  Edit.run [setReplicas 2, setMode .onEveryNode] .empty

/-- Calls of which every second one is refused or ignored: the path is taken, a network is joined,
the service is the service itself, the driver misses its options, and the others are there. -/
def Service.crowdedCalls : List Service.Setting :=
  [.mount (.named "data" "/srv" none), .mount (.anonymous "/srv"), .network "front",
    .networkMode .host, .dependency "db" none, .dependency "web" none,
    .logging (.filled .discard .empty), .logging (.filled .awslogs .empty), .secret "key",
    .secret "key", .config ⟨"site", none, none⟩, .config ⟨"site", some "/etc/site", none⟩,
    .deploy .counted]

theorem services_sound_crowdedCalls :
    ∃ start, Service.create "web" = .ok start ∧
      let left := Edit.run (Service.crowdedCalls.map (Service.Setting.edit .everything)) start
      left.mounts = [.named "data" "/srv" none] ∧ left.networks = ["front"] ∧
      left.networkMode = none ∧ left.dependsOn.keys = ["db"] ∧ left.secrets = ["key"] ∧
      left.configs = [⟨"site", none, none⟩] ∧ left.logging = some (.filled .discard .empty) ∧
      left.deploy = some .counted ∧ left.Sound := by
  have created : Service.create "web" = .ok _ := rfl
  have counted : Deployment.counted.Built := by
    have calls : ∀ edit ∈ [Deployment.setReplicas 2, Deployment.setMode .onEveryNode],
        Deployment.Calls edit := List.forall_mem_cons.mpr
      ⟨⟨.replicas 2, rfl⟩, List.forall_mem_singleton.mpr ⟨.mode .onEveryNode, rfl⟩⟩
    exact ⟨.empty, .inl rfl, .run calls .empty⟩
  have deployed : ∀ setting ∈ Service.crowdedCalls, setting.Deployed := by
    simp [Service.crowdedCalls, Service.Setting.Deployed, counted]
  refine ⟨_, created, rfl, rfl, rfl, rfl, rfl, rfl, rfl, rfl, services_sound (.inl
    ⟨"web", _, created, .run (fun edit member => ?_) _⟩)⟩
  obtain ⟨setting, listed, rfl⟩ := List.mem_map.mp member
  exact ⟨.everything, setting, deployed setting listed, rfl⟩

end ContainerStack
