import ContainerStack.Manifest
import ContainerStack.Proofs.Names

/-!
**Runs of operations on a stack.**

* `Stack.Operation`: one operation with its arguments. Services that are added were built by setters
  with whatever lookups, and so are edits of entities.
* `Stack.run`: a run of operations, each of which may be refused.
* `Stack.Step`: what an accepted operation can make of a stack, and what it has checked.
* `Stack.operation_settles`: an operation is refused and changes nothing, or it is such a step.
* `Stack.Reached`: what a run leads to from a stack that was just created. `Reached.keeps`: what
  holds of new stacks and is kept by every step holds of every stack that is reached.
-/

namespace ContainerStack

namespace Service

/-- Calls of setters in a row, up to the first that is refused, all with one lookup. -/
def Setting.sequence (lookup : EntityLookup) (settings : List Setting) :
    Edit.Change AnyCalls where
  edit := settings.forM (Setting.edit lookup)
  through := .forM_list (fun setting => .of_move ⟨lookup, setting, trivial, rfl⟩) settings

/-- What calls of setters in a row make of a service. -/
def assembled (start : Service) (lookup : EntityLookup) (settings : List Setting) : Service :=
  ((Setting.sequence lookup settings).edit.apply start).2

theorem assembled_built {name : String} {start : Service} (created : create name = .ok start)
    (lookup : EntityLookup) (settings : List Setting) : (start.assembled lookup settings).Built :=
  ⟨name, start, created, (Setting.sequence lookup settings).through start⟩

end Service

namespace Stack

/-- One operation on a stack. -/
inductive Operation where
  | setEnv (key value : String)
  | addEnvFile (path : String)
  | setMainService (name : String)
  | createService (name : String) (spec : Service.Spec)
  | createNetwork (name : String) (spec : Network.Spec)
  | createVolume (name : String) (spec : Volume.Spec)
  | createSecret (name : String) (spec : Secret.Spec)
  | createConfig (name : String) (spec : ConfigFile.Spec)
  | addService (service : Service) (built : service.Built)
  | updateService (name : String) (change : EntityLookup → Edit.Change Service.AnyCalls)
  | updateNetwork (name : String) (change : Edit.Change Network.Calls)
  | updateVolume (name : String) (change : Edit.Change Volume.Calls)
  | writeManifest (write : String → Except Fault Unit)

/-- What an operation does. -/
def Operation.edit : Operation → Edit Stack Unit
  | .setEnv key value => Stack.setEnv key value
  | .addEnvFile path => Stack.addEnvFile path
  | .setMainService name => Stack.setMainService name
  | .createService name spec => Stack.createService name spec
  | .createNetwork name spec => Stack.createNetwork name spec
  | .createVolume name spec => Stack.createVolume name spec
  | .createSecret name spec => Stack.createSecret name spec
  | .createConfig name spec => Stack.createConfig name spec
  | .addService service _ => Stack.addService service
  | .updateService name change => Stack.updateService name fun lookup => (change lookup).edit
  | .updateNetwork name change => Stack.updateNetwork name change.edit
  | .updateVolume name change => Stack.updateVolume name change.edit
  | .writeManifest write => Stack.writeManifest write

/-- The stack after a run of operations, refused ones included. -/
def run (stack : Stack) (operations : List Operation) : Stack :=
  operations.foldl (fun stack operation => (operation.edit.apply stack).2) stack

/-! ### Steps -/

/-- What an accepted operation can make of a stack, with everything that it has checked. -/
inductive Step (stack : Stack) : Stack → Prop where
  | asked : Step stack stack
  | envSet (key value : String) (valid : isVariableName key = true) :
    Step stack { stack with environment := stack.environment.insert key value }
  | envFileAdded (path : String) (known : stack.paths.knows path = true) :
    Step stack { stack with envFiles := Service.appendNew stack.envFiles path }
  | main (name : String) (registered : stack.services.contains name = true)
    (vacant : stack.ensureMainVacant name = .ok ()) :
    Step stack { stack with mainService := some name }
  | serviceAdded (service : Service) (built : service.Built)
    (resolved : service.Resolved stack.lookup)
    (vacant : stack.services.contains service.name = false) (isMain : Bool)
    (mainVacant : isMain = true → stack.ensureMainVacant service.name = .ok ()) :
    Step stack { stack with
      services := stack.services.put service.name service
      mainService := if isMain then some service.name else stack.mainService }
  | serviceEdited (name : String) (before after : Service)
    (found : stack.services.get? name = some before)
    (leads : Edit.Leads Service.AnyCalls before after) (resolved : after.Resolved stack.lookup) :
    Step stack { stack with services := stack.services.put after.name after }
  | networkAdded (network : Network) (built : network.Built)
    (vacant : stack.networks.contains network.name = false) :
    Step stack { stack with networks := stack.networks.put network.name network }
  | networkEdited (name : String) (before after : Network)
    (found : stack.networks.get? name = some before)
    (leads : Edit.Leads Network.Calls before after) :
    Step stack { stack with networks := stack.networks.put after.name after }
  | volumeAdded (volume : Volume) (built : volume.Built)
    (vacant : stack.volumes.contains volume.name = false) :
    Step stack { stack with volumes := stack.volumes.put volume.name volume }
  | volumeEdited (name : String) (before after : Volume)
    (found : stack.volumes.get? name = some before)
    (leads : Edit.Leads Volume.Calls before after) :
    Step stack { stack with volumes := stack.volumes.put after.name after }
  | secretAdded (secret : Secret)
    (made : ∃ name spec, Secret.ofSpec name spec stack.lookup = .ok secret)
    (vacant : stack.secrets.contains secret.name = false) :
    Step stack { stack with secrets := stack.secrets.put secret.name secret }
  | configAdded (config : ConfigFile)
    (made : ∃ name spec, ConfigFile.ofSpec name spec stack.lookup = .ok config)
    (vacant : stack.configs.contains config.name = false) :
    Step stack { stack with configs := stack.configs.put config.name config }

section Settling

variable {stack : Stack}

theorem addEnvFile_settles (path : String) : (addEnvFile path).Settles stack stack.Step :=
  .get (.lift fun _ _ => .lift fun _ known =>
    .set (.envFileAdded path (Validation.ensure_eq_ok.mp known)))

theorem setMainService_settles (name : String) : (setMainService name).Settles stack stack.Step :=
  .get (.lift fun _ registered => .lift fun _ vacant =>
    .set (.main name (Validation.ensure_eq_ok.mp registered) vacant))

/-- The main service is written before the service is registered, but under a name that was found
free the registration is not refused. -/
theorem createService_settles (name : String) (spec : Service.Spec) :
    (createService name spec).Settles stack stack.Step := by
  refine .get (.lift fun _ vacant => ?_)
  have free := Registry.ensureVacant_eq_ok.mp vacant
  dsimp only
  split
  · refine .lift fun _ mainVacant => .lift fun service made => ?_
    obtain ⟨rfl, built, resolved⟩ := Service.ofSpec_eq_ok made
    have registered : stack.services.register service =
        .ok (stack.services.put service.name service) := Registry.register_eq_ok.mpr ⟨free, rfl⟩
    rw [registered]
    exact .inr ⟨_, _, rfl, .serviceAdded service built resolved free true fun _ => mainVacant⟩
  · refine .lift fun service made => ?_
    obtain ⟨rfl, built, resolved⟩ := Service.ofSpec_eq_ok made
    have registered : stack.services.register service =
        .ok (stack.services.put service.name service) := Registry.register_eq_ok.mpr ⟨free, rfl⟩
    rw [registered]
    exact .inr ⟨_, _, rfl, .serviceAdded service built resolved free false nofun⟩

theorem addService_settles (service : Service) (built : service.Built) :
    (addService service).Settles stack stack.Step := by
  refine .get (.lift fun _ vacant => .lift fun _ resolves => .lift fun services registered => ?_)
  obtain ⟨free, rfl⟩ := Registry.register_eq_ok.mp registered
  exact .set (.serviceAdded service built (Service.checkReferences_eq_ok.mp resolves) free false
    nofun)

theorem createNetwork_settles (name : String) (spec : Network.Spec) :
    (createNetwork name spec).Settles stack stack.Step := by
  refine .get (.lift fun _ _ => .lift fun network made => .lift fun networks registered => ?_)
  obtain ⟨free, rfl⟩ := Registry.register_eq_ok.mp registered
  exact .set (.networkAdded network (Network.ofSpec_eq_ok made).2 free)

theorem createVolume_settles (name : String) (spec : Volume.Spec) :
    (createVolume name spec).Settles stack stack.Step := by
  refine .get (.lift fun _ _ => .lift fun volume made => .lift fun volumes registered => ?_)
  obtain ⟨free, rfl⟩ := Registry.register_eq_ok.mp registered
  exact .set (.volumeAdded volume (Volume.ofSpec_eq_ok made).2 free)

theorem createSecret_settles (name : String) (spec : Secret.Spec) :
    (createSecret name spec).Settles stack stack.Step := by
  refine .get (.lift fun _ _ => .lift fun secret made => .lift fun secrets registered => ?_)
  obtain ⟨free, rfl⟩ := Registry.register_eq_ok.mp registered
  exact .set (.secretAdded secret ⟨name, spec, made⟩ free)

theorem createConfig_settles (name : String) (spec : ConfigFile.Spec) :
    (createConfig name spec).Settles stack stack.Step := by
  refine .get (.lift fun _ _ => .lift fun config made => .lift fun configs registered => ?_)
  obtain ⟨free, rfl⟩ := Registry.register_eq_ok.mp registered
  exact .set (.configAdded config ⟨name, spec, made⟩ free)

/-! ### Edits of entities -/

variable {α : Type}

/-- **What an accepted edit of a service leaves**: the copy in its place, if all that it names is
there, whatever the edit did and however often it was refused on the way. -/
theorem updateService_settles (name : String) (edit : EntityLookup → Edit Service α) :
    (updateService name edit).Settles stack fun after => ∃ service answer edited,
      stack.services.get? name = some service ∧
        (edit stack.lookup).apply service = (.ok answer, edited) ∧
        edited.Resolved stack.lookup ∧
        after = { stack with services := stack.services.put edited.name edited } := by
  refine .get ?_
  dsimp only
  cases found : stack.services.get? name with
  | none => exact .refuse
  | some service =>
    refine .lift fun result edited => .lift fun _ resolves => .lift fun services replaced => ?_
    obtain ⟨answer, left⟩ := result
    obtain ⟨_, rfl⟩ := Registry.replace_eq_ok.mp replaced
    exact .set_pure ⟨service, answer, left, rfl, Edit.onCopy_eq_ok.mp edited,
      Service.checkReferences_eq_ok.mp resolves, rfl⟩

theorem updateNetwork_settles (name : String) (edit : Edit Network α) :
    (updateNetwork name edit).Settles stack fun after => ∃ network answer edited,
      stack.networks.get? name = some network ∧ edit.apply network = (.ok answer, edited) ∧
        after = { stack with networks := stack.networks.put edited.name edited } := by
  refine .get ?_
  dsimp only
  cases found : stack.networks.get? name with
  | none => exact .refuse
  | some network =>
    refine .lift fun result edited => .lift fun networks replaced => ?_
    obtain ⟨answer, left⟩ := result
    obtain ⟨_, rfl⟩ := Registry.replace_eq_ok.mp replaced
    exact .set_pure ⟨network, answer, left, rfl, Edit.onCopy_eq_ok.mp edited, rfl⟩

theorem updateVolume_settles (name : String) (edit : Edit Volume α) :
    (updateVolume name edit).Settles stack fun after => ∃ volume answer edited,
      stack.volumes.get? name = some volume ∧ edit.apply volume = (.ok answer, edited) ∧
        after = { stack with volumes := stack.volumes.put edited.name edited } := by
  refine .get ?_
  dsimp only
  cases found : stack.volumes.get? name with
  | none => exact .refuse
  | some volume =>
    refine .lift fun result edited => .lift fun volumes replaced => ?_
    obtain ⟨answer, left⟩ := result
    obtain ⟨_, rfl⟩ := Registry.replace_eq_ok.mp replaced
    exact .set_pure ⟨volume, answer, left, rfl, Edit.onCopy_eq_ok.mp edited, rfl⟩

/-! ### Renderings -/

/-- **A rendering starts from an idle stack only** and leaves it idle. -/
theorem renderManifest_apply (stack : Stack) : renderManifest.apply stack =
    if stack.phase = .rendering then
      (.error (.obstructed (.alreadyRendering ("manifest of " ++ stack.owner))), stack)
    else (Manifest.text stack, { stack with phase := .idle }) := by
  unfold renderManifest RenderPhase.guarded
  by_cases busy : stack.phase = .rendering
  · simp [busy]
  · simp [busy]

/-- **A rendering changes nothing.** -/
theorem renderManifest_asks : renderManifest.Asks := by
  intro stack
  rw [renderManifest_apply]
  cases phase : stack.phase with
  | idle =>
    rw [if_neg nofun, ← phase]
  | rendering => rw [if_pos rfl]

theorem writeManifest_asks (write : String → Except Fault α) : (writeManifest write).Asks :=
  renderManifest_asks.bind fun _ => .lift _

/-! ### All operations -/

/-- **An operation is refused and changes nothing, or it is a step.** -/
theorem operation_settles (stack : Stack) (operation : Operation) :
    operation.edit.Settles stack stack.Step := by
  cases operation with
  | setEnv key value =>
    exact .lift fun _ valid => .modify (.envSet key value (Validation.ensure_eq_ok.mp valid))
  | addEnvFile path => exact addEnvFile_settles path
  | setMainService name => exact setMainService_settles name
  | createService name spec => exact createService_settles name spec
  | createNetwork name spec => exact createNetwork_settles name spec
  | createVolume name spec => exact createVolume_settles name spec
  | createSecret name spec => exact createSecret_settles name spec
  | createConfig name spec => exact createConfig_settles name spec
  | addService service built => exact addService_settles service built
  | updateService name change =>
    refine (updateService_settles name fun lookup => (change lookup).edit).mono fun after step => ?_
    obtain ⟨service, answer, edited, found, ran, resolved, rfl⟩ := step
    exact .serviceEdited name service edited found ((change stack.lookup).through.leads ran)
      resolved
  | updateNetwork name change =>
    refine (updateNetwork_settles name change.edit).mono fun after step => ?_
    obtain ⟨network, answer, edited, found, ran, rfl⟩ := step
    exact .networkEdited name network edited found (change.through.leads ran)
  | updateVolume name change =>
    refine (updateVolume_settles name change.edit).mono fun after step => ?_
    obtain ⟨volume, answer, edited, found, ran, rfl⟩ := step
    exact .volumeEdited name volume edited found (change.through.leads ran)
  | writeManifest write => exact .of_asks (writeManifest_asks write) .asked

end Settling

/-! ### Runs -/

/-- **What every step keeps, every run keeps**, whether its operations are refused or not. -/
theorem run_keeps {holds : Stack → Prop} (kept : ∀ before after, holds before →
    before.Step after → holds after) (operations : List Operation) {stack : Stack}
    (start : holds stack) : holds (stack.run operations) := by
  induction operations generalizing stack with
  | nil => exact start
  | cons operation rest ih =>
    refine ih ?_
    show holds (operation.edit.apply stack).2
    rcases operation_settles stack operation with ⟨_, left⟩ | ⟨_, _, left, step⟩
    · rw [left]
      exact start
    · rw [left]
      exact kept _ _ start step

/-- A run of operations leads to the stack from a new one. -/
def Reached (stack : Stack) : Prop :=
  ∃ name paths start operations, create name paths = .ok start ∧ stack = start.run operations

/-- What an operation leaves of a stack that is reached is reached, too. -/
theorem Reached.operated {stack : Stack} (reached : stack.Reached) (operation : Operation) :
    (operation.edit.apply stack).2.Reached := by
  obtain ⟨name, paths, start, operations, created, rfl⟩ := reached
  refine ⟨name, paths, start, operations ++ [operation], created, ?_⟩
  rw [run, run, List.foldl_append]
  rfl

/-- **What holds of new stacks and is kept by every step holds of every stack that is reached.** -/
theorem Reached.keeps {holds : Stack → Prop}
    (fresh : ∀ name paths start, create name paths = .ok start → holds start)
    (kept : ∀ before after, holds before → before.Step after → holds after) {stack : Stack}
    (reached : stack.Reached) : holds stack := by
  obtain ⟨name, paths, start, operations, created, rfl⟩ := reached
  exact run_keeps kept operations (fresh name paths start created)

end Stack

end ContainerStack
