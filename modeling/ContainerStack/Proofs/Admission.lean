import ContainerStack.Proofs.Accepting
import ContainerStack.Proofs.Changes

/-!
**Exactly when a setter of a service is accepted.**

* `Service.Setting.Admits`: what a service and a lookup have to be like for a call to be accepted.
* `Service.setting_guarded`: that is exactly when it is accepted, and the call then makes its one
  change.
* `Service.dependency_commutes`: a dependency is added before or after any other setting.
* `Service.networkMode_commutes`: a network mode is set before or after every setting that concerns
  neither networks nor the mode.
-/

namespace ContainerStack.Service

/-- A call is accepted for a service under a lookup. -/
def Setting.Admits (lookup : EntityLookup) (service : Service) : Setting → Prop
  | .image reference =>
    Validation.token "image" reference = .ok () ∧ ∀ build, service.source ≠ some (.build build)
  | .build _ => ∀ reference, service.source ≠ some (.image reference)
  | .port given =>
    service.ports.contains given = true ∨
      ∀ number, given.hostPort = some number →
        (service.ports.any fun other => other.hostPort == some number) = false
  | .mount given =>
    Validation.containerPath "service volume" given.containerPath = .ok () ∧
      service.checkMountSource given lookup = .ok () ∧
      (service.mounts.any fun other => other.containerPath == given.containerPath) = false
  | .env key _ => Validation.variableName key = .ok ()
  | .envFile path =>
    Validation.present "env_file" "path" path = .ok () ∧ lookup.pathExists path = true
  | .entrypoint given => given.validate "entrypoint" = .ok ()
  | .command given => given.validate "command" = .ok ()
  | .dependency other _ => other ≠ service.name ∧ lookup.hasService other = true
  | .dependencySpec spec =>
    (∀ word, spec.condition = some word → ∃ condition, DependencyCondition.ofWord word =
      .ok condition) ∧ spec.service ≠ service.name ∧ lookup.hasService spec.service = true
  | .network name => service.networkMode = none ∧ lookup.hasNetwork name = true
  | .networkMode mode =>
    service.networks = [] ∧
      ∀ target, mode.target? = some target → target ≠ service.name ∧ lookup.hasService target = true
  | .user given => Validation.token "user" given = .ok () ∧ isPartOrPair given = true
  | .externalLink link =>
    Validation.token "external_links" link = .ok () ∧ isPartOrPair link = true
  | .restart _ => True
  | .logging given => given.validate = .ok ()
  | .healthcheck _ => True
  | .deploy _ => True
  | .securityOption given => Validation.token "security_opt" given = .ok ()
  | .secret name => lookup.hasSecret name = true
  | .config reference =>
    lookup.hasConfig reference.source = true ∧
      (service.configs.any fun other => other.source == reference.source) = false

open Edit

theorem addDependency_accepts {lookup : EntityLookup} {before after : Service} (other : String)
    (condition : Option DependencyCondition) :
    (addDependency other condition lookup).Accepts before after ↔
      (other ≠ before.name ∧ lookup.hasService other = true) ∧
        after = { before with dependsOn := before.dependsOn.insert other condition } := by
  simp only [addDependency, accepts_get_bind]
  split
  · rename_i same
    simp [same]
  · rename_i differs
    simp [differs, Validation.ensure_eq_ok]

/-- **A call of a setter is accepted exactly where it is admitted**, and then makes its change. -/
theorem setting_guarded (lookup : EntityLookup) (setting : Setting) :
    (Setting.edit lookup setting).Guarded (setting.Admits lookup) setting.change := by
  intro before after
  cases setting with
  | image reference =>
    simp only [Setting.edit, setImage, accepts_check_bind, accepts_get_bind, Setting.Admits,
      Setting.change]
    split <;> simp_all
  | build given =>
    simp only [Setting.edit, setBuild, accepts_get_bind, Setting.Admits, Setting.change]
    split <;> simp_all
  | port given =>
    simp only [Setting.edit, addPort, accepts_get_bind, Setting.Admits, Setting.change]
    by_cases there : before.ports.contains given = true
    · rw [if_pos there, if_pos there]
      simp only [accepts_pure, there, true_or, true_and]
    · rw [if_neg there, if_neg there]
      cases given.hostPort with
      | none => simp
      | some number =>
        dsimp only
        split
        · rename_i taken
          simp only [accepts_throw_bind, there, taken, Option.some.injEq, forall_eq',
            Bool.true_eq_false, Bool.false_eq_true, or_self, false_and]
        · rename_i free
          simp only [accepts_set, free, Option.some.injEq, forall_eq', or_true, true_and]
  | mount given =>
    simp only [Setting.edit, addMount, accepts_check_bind, accepts_get_bind, Setting.Admits,
      Setting.change, and_assoc]
    split
    · rename_i taken
      simp [taken]
    · rename_i free
      simp [free]
  | env key value => simp [Setting.edit, setEnv, Setting.Admits, Setting.change]
  | envFile path =>
    simp [Setting.edit, addEnvFile, Setting.Admits, Setting.change, Validation.ensure_eq_ok,
      and_assoc]
  | entrypoint given => simp [Setting.edit, setEntrypoint, Setting.Admits, Setting.change]
  | command given => simp [Setting.edit, setCommand, Setting.Admits, Setting.change]
  | dependency other condition => exact addDependency_accepts other condition
  | dependencySpec spec =>
    obtain ⟨other, word⟩ := spec
    cases word with
    | none =>
      refine (addDependency_accepts other none).trans ?_
      simp [Setting.Admits, Setting.change]
    | some word =>
      cases read : DependencyCondition.ofWord word with
      | error fault =>
        simp [Setting.edit, addDependencySpec, read, Setting.Admits, accepts_lift_bind]
      | ok condition =>
        simp [Setting.edit, addDependencySpec, read, Setting.Admits, Setting.change,
          accepts_lift_bind, addDependency_accepts, Except.toOption]
  | network name =>
    simp only [Setting.edit, addNetwork, accepts_get_bind, Setting.Admits, Setting.change]
    cases before.networkMode with
    | none => simp [Validation.ensure_eq_ok]
    | some mode => simp
  | networkMode mode =>
    simp only [Setting.edit, setNetworkMode, accepts_get_bind, Setting.Admits, Setting.change]
    split
    · simp_all
    · split
      · split <;> simp_all [Validation.ensure_eq_ok]
      · simp_all
  | user given =>
    simp [Setting.edit, setUser, Setting.Admits, Setting.change, Validation.ensure_eq_ok, and_assoc]
  | externalLink link =>
    simp [Setting.edit, addExternalLink, Setting.Admits, Setting.change, Validation.ensure_eq_ok,
      and_assoc]
  | restart policy => simp [Setting.edit, setRestart, Setting.Admits, Setting.change]
  | logging given => simp [Setting.edit, setLogging, Setting.Admits, Setting.change]
  | healthcheck check => simp [Setting.edit, setHealthcheck, Setting.Admits, Setting.change]
  | deploy given => simp [Setting.edit, setDeploy, Setting.Admits, Setting.change]
  | securityOption option => simp [Setting.edit, addSecurityOption, Setting.Admits, Setting.change]
  | secret name =>
    simp [Setting.edit, addSecret, Setting.Admits, Setting.change, Validation.ensure_eq_ok]
  | config reference =>
    simp only [Setting.edit, addConfig, accepts_check_bind, accepts_get_bind, Setting.Admits,
      Setting.change, Validation.ensure_eq_ok, and_assoc]
    split
    · rename_i taken
      simp [taken]
    · rename_i free
      simp [free]

/-! ### Settings whose order does not matter -/

/-- The setting adds a dependency. -/
def Setting.isDependency : Setting → Bool
  | .dependency _ _ => true
  | .dependencySpec _ => true
  | _ => false

/-- The setting joins a network or replaces the joining of networks. -/
def Setting.isConnection : Setting → Bool
  | .network _ => true
  | .networkMode _ => true
  | _ => false

theorem Setting.change_port (given : PortMapping) (service : Service) :
    (Setting.port given).change service =
      { service with
        ports := if service.ports.contains given then service.ports
          else service.ports ++ [given] } := by
  simp only [Setting.change]
  split <;> rfl

section Order

variable {lookup : EntityLookup}

/-- **A dependency is added before or after any other setting**, with the same outcome. -/
theorem dependency_commutes (spec : Dependency.Spec) (setting : Setting)
    (other : setting.isDependency = false) :
    (Setting.edit lookup (.dependencySpec spec)).Commutes (Setting.edit lookup setting) := by
  refine (setting_guarded lookup (.dependencySpec spec)).commutes (setting_guarded lookup setting)
    (fun service => ?name) (fun service => ?kept) fun service => ?same
  case name => simp only [Setting.Admits, Setting.change_name]
  case kept =>
    cases setting with
    | dependency => cases other
    | dependencySpec => cases other
    | _ => exact .rfl
  case same =>
    cases setting with
    | dependency => cases other
    | dependencySpec => cases other
    | port given =>
      rw [Setting.change_port, Setting.change_port]
      rfl
    | _ => rfl

/-- **A network mode is set before or after any setting that concerns no networks**, with the same
outcome. -/
theorem networkMode_commutes (mode : NetworkMode) (setting : Setting)
    (other : setting.isConnection = false) :
    (Setting.edit lookup (.networkMode mode)).Commutes (Setting.edit lookup setting) := by
  refine (setting_guarded lookup (.networkMode mode)).commutes (setting_guarded lookup setting)
    (fun service => ?networks) (fun service => ?kept) fun service => ?same
  case networks =>
    have unchanged : (setting.change service).networks = service.networks := by
      cases setting with
      | network => cases other
      | port given => rw [Setting.change_port]
      | _ => rfl
    simp only [Setting.Admits, Setting.change_name, unchanged]
  case kept =>
    cases setting with
    | network => cases other
    | networkMode => cases other
    | _ => exact .rfl
  case same =>
    cases setting with
    | network => cases other
    | networkMode => cases other
    | port given =>
      rw [Setting.change_port, Setting.change_port]
      rfl
    | _ => rfl

end Order

end ContainerStack.Service
