import ContainerStack.Proofs.Refusals
import ContainerStack.Proofs.RenderOrder

/-!
**The main service.**

The main service is a name beside the registry, written by two operations, one of which writes it
before the service is there. Both accept a name only if no other one has been chosen, so a choice is
never taken back, and the name always belongs to a registered service, which is then written first.

* `Step.main_kept`, `run_main_kept`: a choice stays.
* `setMainService_taken`, `createService_taken`: another choice is refused.
* `Sound.renderOrder_main`: the main service is written first, and nobody else is moved.
* `main_service_fixed`: all of this for every stack that is reached.
-/

namespace ContainerStack

namespace Stack

variable {stack : Stack} {main other : String}

/-! ### A choice stays -/

/-- No name but the one that was chosen is accepted. -/
theorem ensureMainVacant_eq_ok (chosen : stack.mainService = some main) {answer : Unit} :
    stack.ensureMainVacant other = .ok answer ↔ main = other := by
  rw [ensureMainVacant, chosen]
  exact Validation.ensure_eq_ok.trans beq_iff_eq

/-- **No step takes a choice back.** -/
theorem Step.main_kept {before after : Stack} (step : before.Step after)
    (chosen : before.mainService = some main) : after.mainService = some main := by
  cases step with
  | main name _ vacant => exact congrArg some ((ensureMainVacant_eq_ok chosen).mp vacant).symm
  | serviceAdded service _ _ _ isMain vacant =>
    cases isMain with
    | true => exact congrArg some ((ensureMainVacant_eq_ok chosen).mp (vacant rfl)).symm
    | false => exact chosen
  | _ => exact chosen

/-- **No run takes a choice back**, whether its operations are refused or not. -/
theorem run_main_kept (chosen : stack.mainService = some main) (operations : List Operation) :
    (stack.run operations).mainService = some main :=
  run_keeps (fun _ _ here step => step.main_kept here) operations chosen

/-! ### Another choice is refused -/

/-- The fault of a second choice. -/
def mainFault (main other : String) : Fault :=
  .duplicate .mainService s!"'{main}' is already the main service; cannot also mark '{other}'"

theorem ensureMainVacant_taken (chosen : stack.mainService = some main) (differs : other ≠ main) :
    stack.ensureMainVacant other = .error (mainFault main other) := by
  have same : (main == other) = false := beq_eq_false_iff_ne.mpr differs.symm
  rw [ensureMainVacant, chosen]
  show Validation.ensure (main == other) _ = _
  rw [same]
  rfl

/-- **No other service can be marked**, be it registered or not. -/
theorem setMainService_taken (chosen : stack.mainService = some main) (differs : other ≠ main) :
    (setMainService other).apply stack =
      (.error (if stack.services.contains other then mainFault main other
        else .dangling stack.owner .service other), stack) := by
  unfold setMainService
  rw [Edit.apply_bind, Edit.apply_get]
  dsimp only
  rw [Edit.apply_bind, Edit.apply_lift]
  by_cases registered : stack.services.contains other = true
  · rw [if_pos registered, Validation.ensure, if_pos registered]
    dsimp only
    rw [Edit.apply_bind, Edit.apply_lift, ensureMainVacant_taken chosen differs]
  · rw [if_neg registered, Validation.ensure, if_neg registered]

/-- **No other service can be created as the main one**, whatever its definition is; that a name is
taken is found first. -/
theorem createService_taken (chosen : stack.mainService = some main) (differs : other ≠ main)
    {spec : Service.Spec} (isMain : spec.isMain = true) :
    (createService other spec).apply stack =
      (.error (if stack.services.contains other then .duplicate .service other
        else mainFault main other), stack) := by
  unfold createService
  rw [Edit.apply_bind, Edit.apply_get]
  dsimp only
  rw [Edit.apply_bind, Edit.apply_lift, Registry.ensureVacant]
  by_cases registered : stack.services.contains other = true
  · rw [if_pos registered, if_pos registered]
    rfl
  · rw [if_neg registered, if_neg registered]
    dsimp only
    rw [if_pos isMain, Edit.apply_bind, Edit.apply_lift, ensureMainVacant_taken chosen differs]

/-! ### The order of rendering -/

/-- Without a main service, services are written in the order in which they were registered. -/
theorem renderOrder_noMain (none : stack.mainService = none) :
    stack.renderOrder = stack.services.toList := by
  rw [renderOrder, none]
  rfl

/-- **The main service is written first**, and the others in the order in which they were
registered. -/
theorem Sound.renderOrder_main (sound : stack.Sound) (registered : stack.MainRegistered)
    (chosen : stack.mainService = some main) : ∃ service,
      stack.services.get? main = some service ∧ service.name = main ∧
      stack.renderOrder =
        service :: stack.services.toList.filter fun service => service.name != main := by
  obtain ⟨service, found⟩ := Registry.get?_of_contains (registered main chosen)
  have named : service.name = main := (sound.services.get? found).1
  have first : stack.mainService.bind stack.services.get? = some service := by
    rw [chosen]
    exact found
  refine ⟨service, found, named, ?_⟩
  rw [renderOrder, first, ← named]

end Stack

/-- **One main service, chosen once and written first.** In every stack that is reached, a main
service is registered; it stays the main service through every further run, whether its operations
are refused or not, and every attempt to make another service the main one is refused and changes
nothing. All registered services are written, none of them twice: the main one first, if there is
one, and the others in the order in which they were registered. -/
theorem main_service_fixed {stack : Stack} (reached : stack.Reached) :
    (∀ main, stack.mainService = some main →
      stack.services.contains main = true ∧
      (∀ operations, (stack.run operations).mainService = some main) ∧
      (∀ other, other ≠ main → (Stack.setMainService other).apply stack =
        (.error (if stack.services.contains other then Stack.mainFault main other
          else .dangling stack.owner .service other), stack)) ∧
      (∀ other spec, other ≠ main → spec.isMain = true →
        (Stack.createService other spec).apply stack =
          (.error (if stack.services.contains other then .duplicate .service other
            else Stack.mainFault main other), stack)) ∧
      ∃ service, stack.services.get? main = some service ∧ service.name = main ∧
        stack.renderOrder =
          service :: stack.services.toList.filter fun service => service.name != main) ∧
    (stack.mainService = none → stack.renderOrder = stack.services.toList) ∧
    stack.renderOrder.Perm stack.services.toList ∧
    (stack.renderOrder.map Service.name).Nodup := by
  have sound := reached.sound
  have registered := reached.mainRegistered
  refine ⟨fun main chosen => ⟨registered main chosen, ?kept, ?marked, ?created, ?first⟩,
    Stack.renderOrder_noMain, sound.renderOrder_perm, sound.renderOrder_names⟩
  case kept => exact fun operations => Stack.run_main_kept chosen operations
  case marked => exact fun _ differs => Stack.setMainService_taken chosen differs
  case created => exact fun _ _ differs isMain => Stack.createService_taken chosen differs isMain
  case first => exact sound.renderOrder_main registered chosen

/-- A run that registers a service, then creates one as the main service, and then tries to choose
the first one. -/
def Stack.secondChoiceRun {db : Service} (dbCreated : Service.create "db" = .ok db) :
    List Stack.Operation :=
  [.addService _ (Service.assembled_built dbCreated .everything [.image "mariadb"]),
    .createService "web" { Service.Spec.strayMain with networks := [] },
    .setMainService "db"]

theorem main_service_fixed_secondChoiceRun :
    ∃ start db, ∃ dbCreated : Service.create "db" = .ok db,
      Stack.create "shop" .everything = .ok start ∧
      let left := start.run (Stack.secondChoiceRun dbCreated)
      left.mainService = some "web" ∧ left.services.names = ["db", "web"] ∧
      left.renderOrder.map Service.name = ["web", "db"] ∧
      (∀ operations, (left.run operations).mainService = some "web") ∧
      (Stack.setMainService "db").apply left = (.error (Stack.mainFault "web" "db"), left) := by
  have created : Stack.create "shop" .everything = .ok _ := rfl
  have reached : Stack.Reached _ := ⟨_, _, _, Stack.secondChoiceRun rfl, created, rfl⟩
  obtain ⟨_, kept, marked, _⟩ := (main_service_fixed reached).1 "web" rfl
  exact ⟨_, _, rfl, created, rfl, rfl, by decide, kept, marked "db" (by decide)⟩

end ContainerStack
