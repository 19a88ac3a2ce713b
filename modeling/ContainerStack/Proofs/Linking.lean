import ContainerStack.Definition.Stack
import ContainerStack.Proofs.Admission
import ContainerStack.Proofs.References
import ContainerStack.Proofs.TextLines

/-!
**A service that is made first and linked to others later.**

A document may name services in any order, so each of its services is made without its references to
others, and they are set when all services are there. Under one lookup that gives what making the
service at once gives: the settings that are moved to the end commute with those that they pass.

* `Service.applySpec_eq`: a definition is applied in five parts, of which the references to other
  services are two.
* `StackDefinition.ofSpec_linked`: setting the references last accepts the same definitions and
  leaves the same service.
* `Service.ofSpec_agree`: of the services that a lookup has, only those matter that a definition
  refers to.
-/

namespace ContainerStack

/-! ### Written modes -/

/-- **A mode that was read is written as it was read.** -/
theorem NetworkMode.text_ofText {text : String} {mode : NetworkMode}
    (read : ofText text = .ok mode) : mode.text = text := by
  unfold ofText at read
  split at read
  · cases read; rfl
  · cases read; rfl
  · cases read; rfl
  · split at read
    · rename_i found
      obtain ⟨_, _, same⟩ := Edit.bind_eq_ok.mp read
      cases same
      exact (Text.after?_eq_some.mp found).symm
    · rename_i found
      obtain ⟨_, _, same⟩ := Edit.bind_eq_ok.mp read
      cases same
      exact (Text.after?_eq_some.mp found).symm
    · cases read

namespace Service

open Edit

/-! ### The parts of a definition -/

/-- The settings of a definition up to the command. -/
def applyBasics (spec : Spec) (lookup : EntityLookup) : Edit Service Unit := do
  spec.image.forM setImage
  spec.build.forM fun build => do setBuild (← Build.ofSpec build lookup)
  spec.ports.forM fun port => do addPort (← PortMapping.ofSpec port)
  spec.volumes.forM fun mount => do addMount (← Mount.ofSpec mount) lookup
  spec.environment.toList.forM fun (key, value) => setEnv key value
  spec.envFiles.forM fun path => addEnvFile path lookup
  spec.entrypoint.forM setEntrypoint
  spec.command.forM setCommand

/-- The dependencies of a definition. -/
def applyDependencies (spec : Spec) (lookup : EntityLookup) : Edit Service Unit :=
  spec.dependsOn.forM fun dependency => addDependencySpec dependency lookup

/-- The networks of a definition. -/
def applyNetworks (spec : Spec) (lookup : EntityLookup) : Edit Service Unit :=
  spec.networks.forM fun network => addNetwork network lookup

/-- The network mode of a definition. -/
def applyMode (spec : Spec) (lookup : EntityLookup) : Edit Service Unit :=
  spec.networkMode.forM fun mode => do setNetworkMode (← NetworkMode.ofText mode) lookup

/-- The settings of a definition from the user on. -/
def applyRest (spec : Spec) (lookup : EntityLookup) : Edit Service Unit := do
  spec.user.forM setUser
  spec.restart.forM fun restart => do setRestart (← RestartPolicy.ofSpec restart)
  spec.logging.forM fun logging => do setLogging (← Logging.ofSpec logging)
  spec.healthcheck.forM fun check => do setHealthcheck (← Healthcheck.ofSpec check)
  spec.externalLinks.forM addExternalLink
  spec.secrets.forM fun secret => addSecret secret lookup
  spec.configs.forM fun config => do addConfig (← ConfigReference.ofSpec config) lookup
  spec.deploy.forM fun deploy => do setDeploy (← Deployment.ofSpec deploy)
  spec.securityOptions.forM addSecurityOption

/-- **A definition is applied part by part.** -/
theorem applySpec_eq (spec : Spec) (lookup : EntityLookup) : applySpec spec lookup = (do
    applyBasics spec lookup
    applyDependencies spec lookup
    applyNetworks spec lookup
    applyMode spec lookup
    applyRest spec lookup) := by
  simp only [applySpec, applyBasics, applyDependencies, applyNetworks, applyMode, applyRest,
    bind_assoc]

theorem applySpec_accepts (spec : Spec) (lookup : EntityLookup) :
    (applySpec spec lookup).Accepts =
      Relation.Comp (applyBasics spec lookup).Accepts
        (Relation.Comp (applyDependencies spec lookup).Accepts
          (Relation.Comp (applyNetworks spec lookup).Accepts
            (Relation.Comp (applyMode spec lookup).Accepts (applyRest spec lookup).Accepts))) := by
  rw [applySpec_eq, accepts_seq, accepts_seq, accepts_seq, accepts_seq]

theorem ofSpec_accepts {name : String} {spec : Spec} {lookup : EntityLookup} {service : Service} :
    ofSpec name spec lookup = .ok service ↔
      ∃ start, create name = .ok start ∧ (applySpec spec lookup).Accepts start service := by
  unfold ofSpec
  simp only [bind_eq_ok, Prod.exists, onCopy_eq_ok]
  constructor
  · rintro ⟨start, created, _, _, accepted, same⟩
    cases same
    exact ⟨start, created, accepted⟩
  · rintro ⟨start, created, accepted⟩
    exact ⟨start, created, (), service, accepted, rfl⟩

/-- A definition is accepted only where every service is there that it depends on. -/
theorem ofSpec_dependencies {name : String} {spec : Spec} {lookup : EntityLookup}
    {service : Service} (made : ofSpec name spec lookup = .ok service) {dependency : Dependency.Spec}
    (member : dependency ∈ spec.dependsOn) : lookup.hasService dependency.service = true := by
  obtain ⟨_, _, accepted⟩ := ofSpec_accepts.mp made
  rw [applySpec_accepts] at accepted
  obtain ⟨_, _, _, dependencies, _⟩ := accepted
  obtain ⟨_, _, here⟩ := dependencies.of_forM member
  exact ((setting_guarded lookup (.dependencySpec dependency) _ _).mp here).1.2.2

section Order

variable {lookup : EntityLookup} {edit : Edit Service Unit}

/-- What commutes with every setting that concerns neither dependencies nor networks commutes with
the last part of a definition. -/
theorem applyRest_commutes (spec : Spec)
    (each : ∀ setting : Setting, setting.isDependency = false → setting.isConnection = false →
      edit.Commutes (Setting.edit lookup setting)) :
    edit.Commutes (applyRest spec lookup) := by
  refine .bind (.forM_option (fun user => each (.user user) rfl rfl) _) ?_
  refine .bind (.forM_option (fun _ => .lift_bind fun policy =>
    each (.restart policy) rfl rfl) _) ?_
  refine .bind (.forM_option (fun _ => .lift_bind fun logging =>
    each (.logging logging) rfl rfl) _) ?_
  refine .bind (.forM_option (fun _ => .lift_bind fun check =>
    each (.healthcheck check) rfl rfl) _) ?_
  refine .bind (.forM_list (fun link => each (.externalLink link) rfl rfl) _) ?_
  refine .bind (.forM_list (fun secret => each (.secret secret) rfl rfl) _) ?_
  refine .bind (.forM_list (fun _ => .lift_bind fun config =>
    each (.config config) rfl rfl) _) ?_
  refine .bind (.forM_option (fun _ => .lift_bind fun deploy =>
    each (.deploy deploy) rfl rfl) _) ?_
  exact .forM_list (fun option => each (.securityOption option) rfl rfl) _

/-- What commutes with every single dependency commutes with all of them. -/
theorem commutes_applyDependencies (spec : Spec)
    (each : ∀ dependency, (Setting.edit lookup (.dependencySpec dependency)).Commutes edit) :
    (applyDependencies spec lookup).Commutes edit :=
  (Commutes.forM_list (fun dependency => (each dependency).symm) spec.dependsOn).symm

theorem dependencies_networks (spec : Spec) :
    (applyDependencies spec lookup).Commutes (applyNetworks spec lookup) :=
  commutes_applyDependencies spec fun dependency =>
    .forM_list (fun network => dependency_commutes dependency (.network network) rfl) _

theorem dependencies_mode (spec other : Spec) :
    (applyDependencies spec lookup).Commutes (applyMode other lookup) :=
  commutes_applyDependencies spec fun dependency =>
    .forM_option (fun _ => .lift_bind fun mode =>
      dependency_commutes dependency (.networkMode mode) rfl) _

theorem dependencies_rest (spec : Spec) :
    (applyDependencies spec lookup).Commutes (applyRest spec lookup) :=
  commutes_applyDependencies spec fun dependency =>
    applyRest_commutes spec fun setting other _ => dependency_commutes dependency setting other

theorem networkMode_rest (spec : Spec) (mode : NetworkMode) :
    (setNetworkMode mode lookup).Commutes (applyRest spec lookup) :=
  applyRest_commutes spec fun setting _ other => networkMode_commutes mode setting other

end Order

end Service

/-! ### The services that a definition refers to -/

namespace Service

/-- The services that a definition refers to: its dependencies and the target of its network
mode. -/
def Spec.referredServices (spec : Spec) : List String :=
  spec.dependsOn.map Dependency.Spec.service ++
    ((spec.networkMode.bind fun text => (NetworkMode.ofText text).toOption).bind
      NetworkMode.target?).toList

section Agreement

variable {spec : Spec} {lookup : EntityLookup} {hasService : String → Bool}

theorem addDependencySpec_agree {dependency : Dependency.Spec}
    (agree : hasService dependency.service = lookup.hasService dependency.service) :
    addDependencySpec dependency { lookup with hasService := hasService } =
      addDependencySpec dependency lookup := by
  unfold addDependencySpec addDependency
  simp only [agree]

theorem setNetworkMode_agree {mode : NetworkMode}
    (agree : ∀ target, mode.target? = some target →
      hasService target = lookup.hasService target) :
    setNetworkMode mode { lookup with hasService := hasService } =
      setNetworkMode mode lookup := by
  unfold setNetworkMode
  cases points : mode.target? with
  | none => rfl
  | some target => simp only [agree target points]

theorem applyDependencies_agree
    (agree : ∀ other ∈ spec.referredServices, hasService other = lookup.hasService other) :
    applyDependencies spec { lookup with hasService := hasService } =
      applyDependencies spec lookup :=
  Edit.forM_congr fun _ member => addDependencySpec_agree
    (agree _ (List.mem_append_left _ (List.mem_map_of_mem member)))

theorem applyMode_agree
    (agree : ∀ other ∈ spec.referredServices, hasService other = lookup.hasService other) :
    applyMode spec { lookup with hasService := hasService } = applyMode spec lookup := by
  unfold applyMode
  cases given : spec.networkMode with
  | none => rfl
  | some text =>
    show ((liftM (NetworkMode.ofText text) : Edit Service NetworkMode) >>= fun mode =>
        setNetworkMode mode { lookup with hasService := hasService }) =
      ((liftM (NetworkMode.ofText text) : Edit Service NetworkMode) >>= fun mode =>
        setNetworkMode mode lookup)
    cases read : NetworkMode.ofText text with
    | error fault => rfl
    | ok mode =>
      refine setNetworkMode_agree fun target points => agree target (List.mem_append_right _ ?_)
      simp [given, read, Except.toOption, points]

/-- **Of the services that are there, only those matter that a definition refers to.** -/
theorem ofSpec_agree {name : String}
    (agree : ∀ other ∈ spec.referredServices, hasService other = lookup.hasService other) :
    ofSpec name spec { lookup with hasService := hasService } = ofSpec name spec lookup := by
  have basics : applyBasics spec { lookup with hasService := hasService } =
    applyBasics spec lookup := rfl
  have networks : applyNetworks spec { lookup with hasService := hasService } =
    applyNetworks spec lookup := rfl
  have rest : applyRest spec { lookup with hasService := hasService } = applyRest spec lookup := rfl
  unfold ofSpec
  rw [applySpec_eq, applySpec_eq, basics, applyDependencies_agree agree, networks,
    applyMode_agree agree, rest]

end Agreement

end Service

/-! ### References that are set last -/

namespace StackDefinition

open Edit Service

section Linking

variable {spec : Service.Spec} {mode : Option NetworkMode} {lookup : EntityLookup}

/-- Sets a network mode, if there is one. -/
def setMode (mode : Option NetworkMode) (lookup : EntityLookup) : Edit Service Unit :=
  mode.forM fun mode => setNetworkMode mode lookup

theorem setMode_none : (setMode none lookup).Accepts = Eq := accepts_done

theorem applyMode_eq (read : modeOf spec = .ok mode) :
    applyMode spec lookup = setMode mode lookup := by
  unfold modeOf at read
  unfold applyMode
  cases given : spec.networkMode with
  | none =>
    rw [given] at read
    cases read
    rfl
  | some text =>
    rw [given] at read
    obtain ⟨found, isMode, same⟩ := bind_eq_ok.mp read
    cases same
    show ((liftM (NetworkMode.ofText text) : Edit Service NetworkMode) >>= fun mode =>
      setNetworkMode mode lookup) = _
    rw [isMode]
    rfl

/-- What is left of the network mode of an entry is read as the same mode. -/
theorem modeOf_withoutReferences (read : modeOf spec = .ok mode) :
    modeOf (withoutReferences spec mode) = .ok (mode.filter fun mode => !isDeferred mode) := by
  cases mode with
  | none => rfl
  | some found =>
    cases given : spec.networkMode with
    | none =>
      rw [modeOf, given] at read
      cases read
    | some text =>
      rw [modeOf, given] at read
      obtain ⟨_, isMode, same⟩ := bind_eq_ok.mp read
      cases same
      have again : NetworkMode.ofText found.text = .ok found := by
        rw [NetworkMode.text_ofText isMode]
        exact isMode
      by_cases deferred : isDeferred found = true
      · simp [modeOf, withoutReferences, Option.filter, deferred, pure, Except.pure]
      · simp [modeOf, withoutReferences, Option.filter, deferred, again]

theorem setReferences_accepts : (setReferences spec mode lookup).Accepts =
    Relation.Comp (applyDependencies spec lookup).Accepts
      (setMode (mode.filter isDeferred) lookup).Accepts := by
  rw [← accepts_seq]
  unfold setReferences setMode
  cases mode.filter isDeferred <;> rfl

/-- A network mode that points at another service may as well be set after the last part of a
definition. -/
theorem mode_deferred (read : modeOf spec = .ok mode) :
    Relation.Comp (applyMode (withoutReferences spec mode) lookup).Accepts
        (Relation.Comp (applyRest spec lookup).Accepts
          (setMode (mode.filter isDeferred) lookup).Accepts) =
      Relation.Comp (applyMode spec lookup).Accepts (applyRest spec lookup).Accepts := by
  rw [applyMode_eq (modeOf_withoutReferences read), applyMode_eq read]
  cases mode with
  | none => simp only [Option.filter_none, setMode_none, Relation.comp_eq]
  | some found =>
    by_cases deferred : isDeferred found = true
    · have kept : (some found).filter isDeferred = some found := by simp [deferred]
      have moved : (some found).filter (fun mode => !isDeferred mode) = none := by simp [deferred]
      rw [kept, moved, setMode_none, Relation.eq_comp]
      exact (networkMode_rest spec found).symm
    · have kept : (some found).filter isDeferred = none := by simp [deferred]
      have stays : (some found).filter (fun mode => !isDeferred mode) = some found := by
        simp [deferred]
      rw [kept, stays, setMode_none, Relation.comp_eq]

/-- **Setting the references of a service last** accepts the same definitions and leaves the same
service as applying the definition at once, under one lookup. -/
theorem linked_eq (read : modeOf spec = .ok mode) :
    Relation.Comp (applySpec (withoutReferences spec mode) lookup).Accepts
        (setReferences spec mode lookup).Accepts =
      (applySpec spec lookup).Accepts := by
  have bare : (applyDependencies (withoutReferences spec mode) lookup).Accepts = Eq := accepts_done
  have basics : applyBasics (withoutReferences spec mode) lookup = applyBasics spec lookup := rfl
  have networks : applyNetworks (withoutReferences spec mode) lookup = applyNetworks spec lookup :=
    rfl
  have rest : applyRest (withoutReferences spec mode) lookup = applyRest spec lookup := rfl
  rw [applySpec_accepts, applySpec_accepts, setReferences_accepts, bare, Relation.eq_comp, basics,
    networks, rest]
  simp only [Relation.comp_assoc]
  -- Move the dependencies back past everything that is set after them, and then the mode.
  rw [← (dependencies_rest spec).left_comm, ← (dependencies_mode spec _).left_comm,
    ← (dependencies_networks spec).left_comm, mode_deferred read]

theorem modeOf_of_accepts {start after : Service}
    (accepted : (applySpec spec lookup).Accepts start after) : ∃ mode, modeOf spec = .ok mode := by
  rw [applySpec_accepts] at accepted
  obtain ⟨_, _, _, _, _, _, _, moded, _⟩ := accepted
  unfold applyMode at moded
  unfold modeOf
  cases given : spec.networkMode with
  | none => exact ⟨none, rfl⟩
  | some text =>
    rw [given] at moded
    obtain ⟨mode, read, _⟩ := accepts_lift_bind.mp moded
    exact ⟨some mode, bind_eq_ok.mpr ⟨mode, read, rfl⟩⟩

/-- **The service of a definition is made at once or in two steps**: without its references to other
services, which are set afterwards. -/
theorem ofSpec_linked {name : String} {linked : Service} :
    ofSpec name spec lookup = .ok linked ↔ ∃ mode, modeOf spec = .ok mode ∧
      ∃ service, ofSpec name (withoutReferences spec mode) lookup = .ok service ∧
        (setReferences spec mode lookup).Accepts service linked := by
  simp only [ofSpec_accepts]
  constructor
  · rintro ⟨start, created, accepted⟩
    obtain ⟨mode, read⟩ := modeOf_of_accepts accepted
    rw [← linked_eq read] at accepted
    obtain ⟨service, made, linked⟩ := accepted
    exact ⟨mode, read, service, ⟨start, created, made⟩, linked⟩
  · rintro ⟨mode, read, service, ⟨start, created, made⟩, linked⟩
    refine ⟨start, created, ?_⟩
    rw [← linked_eq read]
    exact ⟨service, made, linked⟩

end Linking

end StackDefinition

end ContainerStack
