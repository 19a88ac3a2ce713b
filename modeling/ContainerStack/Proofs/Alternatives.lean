import ContainerStack.Proofs.Building
import ContainerStack.Proofs.Growth

/-!
**Two ways to do the same.**

A service can be created from its definition, or built first and added then; setters of a service
can be called in one update, or in two. References are looked up by the setters and once more by the
check that comes at the end, so both ways agree only because the check refuses nothing that the
setters have accepted under the lookup of the stack, and because an update changes no lookup.

* `create_or_add`: a definition is created exactly where its service is built and added.
* `updateService_admitted`, `updateService_refused`: an update by setters that use the lookup of the
  stack is refused by one of them or not at all.
* `one_update_or_two`: setters are accepted in one update exactly where they are in two.
-/

namespace ContainerStack

open Edit

/-! ### Creating and adding -/

namespace Service

/-- **A service that was built with one lookup** is not refused by the check under that lookup. -/
theorem checkReferences_built {lookup : EntityLookup} {service : Service}
    (made : Made create (Calls (· = lookup)) service) :
    service.checkReferences lookup = .ok () := by
  obtain ⟨_, start, created, leads⟩ := made
  exact checkReferences_eq_ok.mpr (leads_resolved leads ((create_eq_ok created).2.2 lookup))

end Service

namespace Stack

variable {stack added after : Stack} {name : String} {spec : Service.Spec} {service : Service}

/-- Adding the service of a definition needs nothing but a free name. -/
theorem addService_made (made : Service.ofSpec name spec stack.lookup = .ok service) :
    (addService service).Accepts stack after ↔
      stack.services.contains name = false ∧ after = stack.enter name false service := by
  obtain ⟨rfl, _, resolved⟩ := Service.ofSpec_eq_ok made
  rw [addService_accepts, Service.checkReferences_eq_ok]
  exact and_congr_right fun _ => and_iff_right resolved

theorem setMainService_accepts : (setMainService name).Accepts stack after ↔
    stack.services.contains name = true ∧ stack.ensureMainVacant name = .ok () ∧
      after = { stack with mainService := some name } := by
  unfold setMainService
  rw [accepts_get_bind, accepts_check_bind, accepts_check_bind, accepts_set,
    Validation.ensure_eq_ok]

/-- A service that was just entered can be marked if no other one is. -/
theorem setMainService_entered :
    (setMainService name).Accepts (stack.enter name false service) after ↔
      stack.ensureMainVacant name = .ok () ∧ after = stack.enter name true service := by
  rw [setMainService_accepts]
  exact and_iff_right (Registry.contains_put.mpr (.inl rfl))

/-- **What the two ways to register the service of a definition have in common.** -/
structure RegistersAlike (stack : Stack) (name : String) (spec : Service.Spec) : Prop where
  plain : spec.isMain = false → ∀ after, (createService name spec).Accepts stack after ↔
    ∃ service, Service.ofSpec name spec stack.lookup = .ok service ∧
      (addService service).Accepts stack after
  main : spec.isMain = true → ∀ after, (createService name spec).Accepts stack after ↔
    ∃ service added, Service.ofSpec name spec stack.lookup = .ok service ∧
      (addService service).Accepts stack added ∧ (setMainService name).Accepts added after
  rechecked : ∀ service, Service.ofSpec name spec stack.lookup = .ok service →
    service.checkReferences stack.lookup = .ok ()

end Stack

/-- **A definition is created exactly where its service is built and added**, in every stack, and
both leave the same stack; a main service is marked after it was added. The check of all references
refuses no service that was built with the lookup of the stack. -/
theorem create_or_add (stack : Stack) (name : String) (spec : Service.Spec) :
    stack.RegistersAlike name spec where
  plain isPlain after := by
    rw [Stack.createService_accepts, isPlain]
    constructor
    · rintro ⟨vacant, _, service, made, rfl⟩
      exact ⟨service, made, (Stack.addService_made made).mpr ⟨vacant, rfl⟩⟩
    · rintro ⟨service, made, accepted⟩
      obtain ⟨vacant, rfl⟩ := (Stack.addService_made made).mp accepted
      exact ⟨vacant, nofun, service, made, rfl⟩
  main isMain after := by
    rw [Stack.createService_accepts, isMain]
    constructor
    · rintro ⟨vacant, mainVacant, service, made, rfl⟩
      exact ⟨service, _, made, (Stack.addService_made made).mpr ⟨vacant, rfl⟩,
        Stack.setMainService_entered.mpr ⟨mainVacant rfl, rfl⟩⟩
    · rintro ⟨service, added, made, accepted, marked⟩
      obtain ⟨vacant, rfl⟩ := (Stack.addService_made made).mp accepted
      obtain ⟨mainVacant, rfl⟩ := Stack.setMainService_entered.mp marked
      exact ⟨vacant, fun _ => mainVacant, service, made, rfl⟩
  rechecked service made :=
    Service.checkReferences_built ⟨name, (Service.applySpec_through spec).of_created made⟩

/-- A run that registers a volume and a service. -/
def Stack.storeRun {db : Service} (dbCreated : Service.create "db" = .ok db) :
    List Stack.Operation :=
  [.createVolume "data" .bare,
    .addService _ (Service.assembled_built dbCreated .everything [.image "mongo"])]

/-- The definition of a service that mounts the volume and waits for the service. -/
def Service.Spec.waiting (isMain : Bool) : Service.Spec :=
  { Service.Spec.ofImage "nginx" with
    isMain := isMain
    volumes := [⟨some "data", none, some "/srv", none⟩]
    dependsOn := [⟨"db", none⟩] }

theorem create_or_add_waiting :
    ∃ start db, ∃ dbCreated : Service.create "db" = .ok db,
      Stack.create "shop" .everything = .ok start ∧
      let left := start.run (Stack.storeRun dbCreated)
      (∃ service after, Service.ofSpec "web" (.waiting false) left.lookup = .ok service ∧
        (Stack.addService service).Accepts left after ∧
        (Stack.createService "web" (.waiting false)).Accepts left after) ∧
      ∃ service added after, Service.ofSpec "web" (.waiting true) left.lookup = .ok service ∧
        (Stack.addService service).Accepts left added ∧
        (Stack.setMainService "web").Accepts added after ∧
        (Stack.createService "web" (.waiting true)).Accepts left after ∧
        after.mainService = some "web" := by
  have created : Stack.create "shop" .everything = .ok _ := rfl
  refine ⟨_, _, rfl, created, ⟨_, _, rfl, rfl, ?plain⟩, _, _, _, rfl, rfl, rfl, ?main, rfl⟩
  case plain => exact ((create_or_add _ _ _).plain rfl _).mpr ⟨_, rfl, rfl⟩
  case main => exact ((create_or_add _ _ _).main rfl _).mpr ⟨_, _, rfl, rfl, rfl⟩

/-! ### One update and two -/

namespace Stack

/-- The stack with another service under a name. -/
def holding (stack : Stack) (name : String) (service : Service) : Stack :=
  { stack with services := stack.services.put name service }

section Updates

variable {stack after : Stack} {name : String} {service : Service} {fault : Fault}

theorem updateService_missing {edit : EntityLookup → Edit Service Unit}
    (missing : stack.services.get? name = none) : (updateService name edit).apply stack =
      (.error (.dangling stack.owner .service name), stack) := by
  unfold updateService
  rw [apply_bind, apply_get]
  simp only [missing]
  rfl

/-- **An update by setters that use the lookup of the stack** is accepted where they are: the check
that comes last refuses nothing. -/
theorem updateService_admitted {edit : EntityLookup → Edit Service Unit} (sound : stack.Sound)
    (found : stack.services.get? name = some service)
    (through : (edit stack.lookup).Through (Service.Calls (· = stack.lookup))) :
    (updateService name edit).Accepts stack after ↔
      ∃ edited, (edit stack.lookup).Accepts service edited ∧
        after = stack.holding name edited := by
  obtain ⟨named, _, resolved⟩ := sound.services.get? found
  rw [StackDefinition.updateService_accepts found]
  refine exists_congr fun edited => and_congr_right fun ran => ?_
  have leads := through.leads ran
  have sameName : edited.name = name := (Service.leads_name leads).trans named
  rw [sameName, and_iff_right (Service.leads_resolved leads resolved),
    and_iff_right (Registry.contains_of_get? found)]
  rfl

/-- It is refused where one of them is, with the fault of that setter. -/
theorem updateService_refused {edit : EntityLookup → Edit Service Unit} (sound : stack.Sound)
    (found : stack.services.get? name = some service)
    (through : (edit stack.lookup).Through (Service.Calls (· = stack.lookup))) :
    (updateService name edit).apply stack = (.error fault, stack) ↔
      ∃ left, (edit stack.lookup).apply service = (.error fault, left) := by
  rcases ran : (edit stack.lookup).apply service with ⟨first | _, edited⟩
  · have refused : (updateService name edit).apply stack = (.error first, stack) := by
      unfold updateService
      rw [apply_bind, apply_get]
      simp only [found]
      rw [apply_bind, apply_lift, onCopy, ran]
    simp [refused]
  · have accepted := (updateService_admitted sound found through).mpr ⟨edited, ran, rfl⟩
    rw [accepted]
    simp

end Updates

/-- Calls of setters in one update, all with the lookup that the update gives. -/
def Operation.calls (name : String) (settings : List Service.Setting) : Operation :=
  .updateService name fun lookup => Service.Setting.sequence lookup settings

theorem edit_calls (name : String) (settings : List Service.Setting) :
    (Operation.calls name settings).edit =
      updateService name fun lookup => settings.forM (Service.Setting.edit lookup) := rfl

section Calls

variable {stack after : Stack} {name : String} {service : Service} {settings : List Service.Setting}
  {fault : Fault}

theorem through_calls (lookup : EntityLookup) (settings : List Service.Setting) :
    (settings.forM (Service.Setting.edit lookup)).Through (Service.Calls (· = lookup)) :=
  .forM_list (fun setting => Service.through_setting setting) settings

theorem calls_accepts (sound : stack.Sound) (found : stack.services.get? name = some service) :
    (Operation.calls name settings).edit.Accepts stack after ↔
      ∃ edited, (settings.forM (Service.Setting.edit stack.lookup)).Accepts service edited ∧
        after = stack.holding name edited := by
  rw [edit_calls]
  exact updateService_admitted sound found (through_calls _ _)

theorem calls_refused (sound : stack.Sound) (found : stack.services.get? name = some service) :
    (Operation.calls name settings).edit.apply stack = (.error fault, stack) ↔
      ∃ left, (settings.forM (Service.Setting.edit stack.lookup)).apply service =
        (.error fault, left) := by
  rw [edit_calls]
  exact updateService_refused sound found (through_calls _ _)

section Between

variable {half : Service} {later : List Service.Setting} (sound : stack.Sound)
  (found : stack.services.get? name = some service)
  (ran : (settings.forM (Service.Setting.edit stack.lookup)).Accepts service half)

include sound found ran

/-- **What the second of two updates finds**: the lookup is the same, and the service is what the
first one has left. -/
theorem calls_between : (stack.holding name half).Sound ∧
    (stack.holding name half).lookup = stack.lookup ∧
    (stack.holding name half).services.get? name = some half ∧
    ∀ edited, (stack.holding name half).holding name edited =
      stack.holding name edited := by
  have accepted := (calls_accepts sound found).mpr ⟨half, ran, rfl⟩
  have step := (operation_settles stack (Operation.calls name settings)).of_accepted accepted
  refine ⟨step.sound sound, StackDefinition.lookup_put_taken (Registry.contains_of_get? found),
    Registry.get?_put.trans (if_pos rfl), fun edited => ?_⟩
  unfold holding
  rw [Registry.put_put found]

theorem calls_then_accepts :
    (Operation.calls name later).edit.Accepts (stack.holding name half) after ↔
      ∃ edited, (later.forM (Service.Setting.edit stack.lookup)).Accepts half edited ∧
        after = stack.holding name edited := by
  obtain ⟨soundThen, sameLookup, foundThen, same⟩ := calls_between sound found ran
  rw [calls_accepts soundThen foundThen, sameLookup]
  simp only [same]

theorem calls_then_refused :
    (Operation.calls name later).edit.apply (stack.holding name half) =
        (.error fault, stack.holding name half) ↔
      ∃ left, (later.forM (Service.Setting.edit stack.lookup)).apply half =
        (.error fault, left) := by
  obtain ⟨soundThen, sameLookup, foundThen, _⟩ := calls_between sound found ran
  rw [calls_refused soundThen foundThen, sameLookup]

end Between

end Calls

end Stack

/-- **Setters are accepted in one update exactly where they are in two**, and both leave the same
stack. Where they are refused the fault is the same, but the first of two updates may have been
accepted. -/
theorem one_update_or_two {stack : Stack} (reached : stack.Reached) (name : String)
    (first second : List Service.Setting) :
    (∀ after, (Stack.Operation.calls name (first ++ second)).edit.Accepts stack after ↔
      ∃ between, (Stack.Operation.calls name first).edit.Accepts stack between ∧
        (Stack.Operation.calls name second).edit.Accepts between after) ∧
    ∀ fault, (Stack.Operation.calls name (first ++ second)).edit.apply stack =
        (.error fault, stack) ↔
      (Stack.Operation.calls name first).edit.apply stack = (.error fault, stack) ∨
        ∃ between, (Stack.Operation.calls name first).edit.Accepts stack between ∧
          (Stack.Operation.calls name second).edit.apply between = (.error fault, between) := by
  have sound := reached.sound
  cases found : stack.services.get? name with
  | none =>
    have refused (settings : List Service.Setting) :
        (Stack.Operation.calls name settings).edit.apply stack =
          (.error (.dangling stack.owner .service name), stack) := by
      rw [Stack.edit_calls, Stack.updateService_missing found]
    simp [Accepts, refused]
  | some service =>
    refine ⟨fun after => ?accepted, fun fault => ?refused⟩
    case accepted =>
      rw [Stack.calls_accepts sound found, forM_append]
      simp only [accepts_bind, Stack.calls_accepts sound found]
      constructor
      · rintro ⟨edited, ⟨half, one, two⟩, rfl⟩
        exact ⟨_, ⟨half, one, rfl⟩,
          (Stack.calls_then_accepts sound found one).mpr ⟨edited, two, rfl⟩⟩
      · rintro ⟨_, ⟨half, one, rfl⟩, accepted⟩
        obtain ⟨edited, two, rfl⟩ := (Stack.calls_then_accepts sound found one).mp accepted
        exact ⟨edited, ⟨half, one, two⟩, rfl⟩
    case refused =>
      rw [Stack.calls_refused sound found, Stack.calls_refused sound found, forM_append,
        refused_bind]
      simp only [Stack.calls_accepts sound found]
      refine or_congr_right ⟨?_, ?_⟩
      · rintro ⟨half, one, two⟩
        exact ⟨_, ⟨half, one, rfl⟩, (Stack.calls_then_refused sound found one).mpr two⟩
      · rintro ⟨_, ⟨half, one, rfl⟩, refused⟩
        exact ⟨half, one, (Stack.calls_then_refused sound found one).mp refused⟩

/-- Two calls for the first of two updates. -/
def Service.Setting.stored : List Service.Setting :=
  [.mount (.named "data" "/srv" none), .env "TZ" "UTC"]

theorem one_update_or_two_storeRun :
    ∃ start db, ∃ dbCreated : Service.create "db" = .ok db,
      Stack.create "shop" .everything = .ok start ∧
      let left := start.run (Stack.storeRun dbCreated)
      (∃ between after,
        (Stack.Operation.calls "db" Service.Setting.stored).edit.Accepts left between ∧
        (Stack.Operation.calls "db" [.env "TZ" "CET"]).edit.Accepts between after ∧
        (Stack.Operation.calls "db" (Service.Setting.stored ++ [.env "TZ" "CET"])).edit.Accepts
          left after ∧ after.services ≠ between.services) ∧
      (Stack.Operation.calls "db" (Service.Setting.stored ++ [.network "back"])).edit.apply left =
        (.error (.dangling "service 'db'" .network "back"), left) := by
  have created : Stack.create "shop" .everything = .ok _ := rfl
  have reached : Stack.Reached _ := ⟨_, _, _, Stack.storeRun rfl, created, rfl⟩
  refine ⟨_, _, rfl, created, ⟨_, _, rfl, rfl, ?_, ?_⟩, ?_⟩
  · exact ((one_update_or_two reached "db" _ _).1 _).mpr ⟨_, rfl, rfl⟩
  · decide
  · exact ((one_update_or_two reached "db" _ _).2 _).mpr (.inr ⟨_, rfl, rfl⟩)

end ContainerStack
