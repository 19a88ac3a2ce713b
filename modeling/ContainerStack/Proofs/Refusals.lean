import ContainerStack.Proofs.Operations

/-!
**A refused change leaves nothing behind.**

An edit keeps what it assigned before it was refused, so this has to be shown of every operation. It
holds because every setter assigns last and because every update works on a copy; the one operation
that assigns before its last check, the creation of a main service, has ruled out by then that the
check refuses.

* `refusal_leaves_nothing`: no operation on a stack and no setter of an entity leaves anything
  behind when it is refused.
* `Stack.Reached.mainRegistered`: the main service of a stack is registered.
-/

namespace ContainerStack

namespace Stack

/-- The main service, if there is one, is registered. -/
def MainRegistered (stack : Stack) : Prop :=
  ∀ name, stack.mainService = some name → stack.services.contains name = true

theorem Step.mainRegistered {before after : Stack} (step : before.Step after)
    (registered : before.MainRegistered) : after.MainRegistered := by
  cases step with
  | main name there _ =>
    intro main same
    cases same
    exact there
  | serviceAdded service _ _ _ isMain _ =>
    intro main same
    cases isMain with
    | true =>
      cases same
      exact Registry.contains_put.mpr (.inl rfl)
    | false => exact Registry.contains_put.mpr (.inr (registered main same))
  | serviceEdited _ _ after _ _ _ =>
    intro main same
    exact Registry.contains_put.mpr (.inr (registered main same))
  | _ => exact registered

/-- **The main service of every stack that is reached is registered.** -/
theorem Reached.mainRegistered {stack : Stack} (reached : stack.Reached) :
    stack.MainRegistered := by
  refine reached.keeps (fun _ _ start created name main => ?_) fun _ _ registered step =>
    step.mainRegistered registered
  obtain ⟨_, _, created⟩ := Edit.bind_eq_ok.mp created
  obtain ⟨_, _, same⟩ := Edit.bind_eq_ok.mp created
  cases same
  cases main

/-- The creation of a service, which writes the main service first, keeps that. -/
theorem createService_mainRegistered {stack : Stack} (registered : stack.MainRegistered)
    (name : String) (spec : Service.Spec) :
    ((createService name spec).apply stack).2.MainRegistered := by
  refine Edit.Settles.left ?_ registered
  exact (createService_settles name spec).mono fun _ step => step.mainRegistered registered

end Stack

/-- **No refused change leaves anything behind**: no operation on a stack, no update of an entity
whatever its edit does and wherever it is refused, and no setter of a service, a network, a volume,
a deployment or a stage of a build script. Nor does the creation of a service leave a main service
that is not registered. -/
theorem refusal_leaves_nothing :
    (∀ operation : Stack.Operation, operation.edit.Atomic) ∧
    (∀ (α : Type) (name : String) (edit : EntityLookup → Edit Service α),
      (Stack.updateService name edit).Atomic) ∧
    (∀ (α : Type) (name : String) (edit : Edit Network α), (Stack.updateNetwork name edit).Atomic) ∧
    (∀ (α : Type) (name : String) (edit : Edit Volume α), (Stack.updateVolume name edit).Atomic) ∧
    (∀ (lookup : EntityLookup) (setting : Service.Setting), (setting.edit lookup).Atomic) ∧
    (∀ setting : Network.Setting, setting.edit.Atomic) ∧
    (∀ setting : Volume.Setting, setting.edit.Atomic) ∧
    (∀ setting : Deployment.Setting, setting.edit.Atomic) ∧
    (∀ setting : Script.Stage.Setting, setting.edit.Atomic) ∧
    ∀ stack : Stack, stack.Reached → ∀ (name : String) (spec : Service.Spec),
      ((Stack.createService name spec).apply stack).2.MainRegistered := by
  refine ⟨?operations, ?services, ?networks, ?volumes, ?service, ?network, ?volume, ?deployment,
    ?stage, ?main⟩
  case operations =>
    exact fun operation => .of_settles fun stack => stack.operation_settles operation
  case services =>
    exact fun _ name edit => .of_settles fun _ => Stack.updateService_settles name edit
  case networks =>
    exact fun _ name edit => .of_settles fun _ => Stack.updateNetwork_settles name edit
  case volumes =>
    exact fun _ name edit => .of_settles fun _ => Stack.updateVolume_settles name edit
  case service => exact fun _ setting => .of_settles fun _ => Service.setting_assigns setting
  case network => exact fun setting => .of_settles fun _ => Network.setting_assigns setting
  case volume => exact fun setting => .of_settles fun _ => Volume.setting_assigns setting
  case deployment => exact fun setting => .of_settles fun _ => Deployment.setting_assigns setting
  case stage => exact fun setting => .of_settles fun _ => Script.Stage.setting_assigns setting
  case main =>
    exact fun _ reached name spec =>
      Stack.createService_mainRegistered reached.mainRegistered name spec

/-- The definition of a main service that names a network which is not there. -/
def Service.Spec.strayMain : Service.Spec where
  isMain := true
  image := some "nginx"
  build := none
  ports := []
  volumes := []
  environment := .empty
  envFiles := []
  entrypoint := none
  command := none
  dependsOn := []
  networks := ["elsewhere"]
  networkMode := none
  user := none
  restart := none
  logging := none
  healthcheck := none
  externalLinks := []
  secrets := []
  configs := []
  deploy := none
  securityOptions := []

theorem refusal_leaves_nothing_strayMain :
    ∃ start, Stack.create "shop" .everything = .ok start ∧
      ((Stack.createService "web" .strayMain).apply start).1 =
        .error (.dangling "service 'web'" .network "elsewhere") ∧
      ((Stack.createService "web" .strayMain).apply start).2 = start ∧
      ((Stack.createService "web" .strayMain).apply start).2.MainRegistered := by
  have created : Stack.create "shop" .everything = .ok _ := rfl
  have reached : Stack.Reached _ := ⟨_, _, _, [], created, rfl⟩
  obtain ⟨operations, _, _, _, _, _, _, _, _, mains⟩ := refusal_leaves_nothing
  refine ⟨_, created, rfl, ?_, mains _ reached "web" .strayMain⟩
  exact operations (.createService "web" .strayMain) _ _ rfl

end ContainerStack
