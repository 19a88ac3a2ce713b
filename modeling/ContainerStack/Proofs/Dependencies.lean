import ContainerStack.Proofs.Alternatives

/-!
**Undeclared dependencies are found first.**

A definition is searched for dependencies that it does not declare before anything is made of it.
After that the branch of `Service.addDependency` for a service that is missing is never taken: the
first pass over the services adds no dependency, and it leaves every declared service in the stack,
so the second pass finds all of them, whatever their order is and whether or not they refer to each
other in circles.

* `Stack.Operates`: the edits that are operations on a stack; `StackDefinition.applyApart_through`:
  building goes through them.
* `StackDefinition.HasDeclared`: the stack is sound and has every service of a definition.
  `Links.hasDeclared`: wherever the second pass comes to an entry, this is so.
* `StackDefinition.AddsDependency`: building comes to adding a dependency to a service.
* `undeclared_found_first`: what is said of a definition that lacks a service, where a dependency
  can be refused otherwise, and that building is refused nowhere else for its dependencies.
-/

namespace ContainerStack

open Edit

/-! ### Chains of operations -/

namespace Stack

/-- The edits that are operations. -/
def Operates (edit : Edit Stack Unit) : Prop := ∃ operation : Operation, edit = operation.edit

/-- **What every step keeps is kept along a chain of operations.** -/
theorem leads_keeps {holds : Stack → Prop}
    (kept : ∀ before after, holds before → before.Step after → holds after) {before after : Stack}
    (leads : Leads Operates before after) (start : holds before) : holds after := by
  refine leads.keeps holds (fun edit operates value here => ?_) start
  obtain ⟨operation, rfl⟩ := operates
  exact ((operation_settles value operation).mono fun next => kept value next here).left here

/-- An update by setters that use the lookup of the stack is refused exactly where one of them
is. -/
theorem updateService_refuses {edit : EntityLookup → Edit Service Unit} {stack : Stack}
    {name : String} {service : Service} {fault : Fault} (sound : stack.Sound)
    (found : stack.services.get? name = some service)
    (through : (edit stack.lookup).Through (Service.Calls (· = stack.lookup))) :
    (updateService name edit).Refuses stack fault ↔ (edit stack.lookup).Refuses service fault := by
  refine Iff.trans ?_ (updateService_refused sound found through)
  refine ⟨fun ⟨left, refused⟩ => ?_, fun refused => ⟨stack, refused⟩⟩
  rcases updateService_settles name edit with ⟨other, same⟩ | ⟨_, _, accepted, _⟩
  · rw [same] at refused ⊢
    cases refused
    rfl
  · rw [accepted] at refused
    cases refused

end Stack

namespace StackDefinition

/-! ### The two passes as operations -/

/-- Applies all of a definition but the references from service to service. -/
def applyApart (definition : StackDefinition) : Edit Stack Unit := do
  definition.applySettings
  definition.createOthers
  definition.services.toList.forM fun entry => createWithoutReferences entry.1 entry.2

/-- Sets the references from service to service. -/
def linkAll (definition : StackDefinition) : Edit Stack Unit :=
  definition.services.toList.forM fun entry => applyReferences entry.1 entry.2

theorem apply_apart (definition : StackDefinition) : definition.apply = (do
    definition.applyApart
    definition.linkAll) := by
  rw [apply_eq]
  simp only [applyApart, linkAll, createLinked, bind_assoc]

theorem applyApart_through (definition : StackDefinition) :
    definition.applyApart.Through Stack.Operates := by
  refine .bind ?settings fun _ => .bind ?others fun _ => .forM_list (fun entry => ?service) _
  case settings =>
    exact .bind (.forM_list (fun entry => .of_move ⟨.setEnv entry.1 entry.2, rfl⟩) _) fun _ =>
      .forM_list (fun path => .of_move ⟨.addEnvFile path, rfl⟩) _
  case others =>
    exact .bind (.forM_list (fun entry => .of_move ⟨.createNetwork entry.1 entry.2, rfl⟩) _)
      fun _ => .bind (.forM_list (fun entry => .of_move ⟨.createVolume entry.1 entry.2, rfl⟩) _)
      fun _ => .bind (.forM_list (fun entry => .of_move ⟨.createSecret entry.1 entry.2, rfl⟩) _)
      fun _ => .forM_list (fun entry => .of_move ⟨.createConfig entry.1 entry.2, rfl⟩) _
  case service =>
    exact .lift_bind _ fun mode =>
      .of_move ⟨.createService entry.1 (withoutReferences entry.2 mode), rfl⟩

theorem setReferences_anyCalls (spec : Service.Spec) (mode : Option NetworkMode)
    (lookup : EntityLookup) : (setReferences spec mode lookup).Through Service.AnyCalls :=
  fun service => (setReferences_through mode lookup service).mono fun _ => Service.Calls.any

theorem applyReferences_through (name : String) (spec : Service.Spec) :
    (applyReferences name spec).Through Stack.Operates := by
  refine .lift_bind _ fun mode => ?_
  split
  · exact .of_asks (.pure _)
  · exact .of_move ⟨.updateService name fun lookup =>
      ⟨_, setReferences_anyCalls spec mode lookup⟩, rfl⟩

/-! ### What the second pass finds -/

/-- The stack is sound and has every service that a definition declares. -/
structure HasDeclared (definition : StackDefinition) (stack : Stack) : Prop where
  sound : stack.Sound
  services : ∀ name, definition.services.contains name = true →
    stack.services.contains name = true

variable {definition : StackDefinition} {paths : KnownPaths} {name : String}

theorem HasDeclared.step {before after : Stack} (has : definition.HasDeclared before)
    (step : before.Step after) : definition.HasDeclared after :=
  ⟨step.sound has.sound, fun other declared =>
    step.grows.services other (has.services other declared)⟩

/-- A service that is created is there, and none is lost. -/
theorem createWithoutReferences_keeps {owner : String} {spec : Service.Spec}
    {before after : Stack} (accepted : (createWithoutReferences owner spec).Accepts before after) :
    after.services.contains owner = true ∧ before.services.Covers after.services := by
  obtain ⟨_, created⟩ := createWithoutReferences_accepts.mp accepted
  obtain ⟨_, _, _, _, rfl⟩ := Stack.createService_accepts.mp created
  exact ⟨Registry.contains_put.mpr (.inl rfl), Registry.covers_put⟩

/-- **The first pass leaves every declared service**: each is there once it was created, and none is
lost later. -/
theorem applyApart_hasDeclared {start first : Stack} (created : Stack.create name paths = .ok start)
    (accepted : definition.applyApart.Accepts start first) : definition.HasDeclared first := by
  have leads := definition.applyApart_through.leads accepted
  refine ⟨Stack.leads_keeps (fun _ _ => Stack.Step.sound) leads (Stack.create_sound created),
    fun other declared => ?_⟩
  obtain ⟨_, _, accepted⟩ := accepts_bind.mp accepted
  obtain ⟨_, _, accepted⟩ := accepts_bind.mp accepted
  obtain ⟨entry, listed, rfl⟩ := List.mem_map.mp (OrderedMap.contains_eq_true.mp declared)
  obtain ⟨earlier, later, same⟩ := List.append_of_mem listed
  rw [OrderedMap.toList, same, forM_append] at accepted
  obtain ⟨_, _, accepted⟩ := accepts_bind.mp accepted
  obtain ⟨between, here, others⟩ := accepts_forM_cons.mp accepted
  exact others.forM_keeps (fun _ _ _ step there => (createWithoutReferences_keeps step).2 _ there)
    (createWithoutReferences_keeps here).1

/-- While a definition is built, the second pass comes to an entry with a stack. -/
inductive Links (definition : StackDefinition) (paths : KnownPaths) (owner : String)
    (spec : Service.Spec) (stack : Stack) : Prop where
  | comes {name : String} {start first : Stack} (named : definition.name = some name)
    (declared : definition.undeclaredDependencies = [])
    (created : Stack.create name paths = .ok start)
    (applied : definition.applyApart.Accepts start first)
    (arrives : Arrives (fun entry => applyReferences entry.1 entry.2) definition.services.toList
      first (owner, spec) stack)

/-- **Wherever the second pass comes to an entry**, every declared service is there. -/
theorem Links.hasDeclared {owner : String} {spec : Service.Spec} {stack : Stack}
    (links : definition.Links paths owner spec stack) : definition.HasDeclared stack := by
  obtain ⟨_, _, created, applied, earlier, _, _, accepted⟩ := links
  have leads := (Through.forM_list (fun entry : String × Service.Spec =>
    applyReferences_through entry.1 entry.2) earlier).leads accepted
  exact Stack.leads_keeps (fun _ _ => HasDeclared.step) leads
    (applyApart_hasDeclared created applied)

theorem Links.declared {owner : String} {spec : Service.Spec} {stack : Stack}
    (links : definition.Links paths owner spec stack) :
    definition.undeclaredDependencies = [] := by
  obtain ⟨_, declared, _⟩ := links
  exact declared

theorem Links.listed {owner : String} {spec : Service.Spec} {stack : Stack}
    (links : definition.Links paths owner spec stack) :
    (owner, spec) ∈ definition.services.entries := by
  obtain ⟨_, _, _, _, arrives⟩ := links
  exact arrives.mem

theorem Links.begun {owner : String} {spec : Service.Spec} {stack : Stack}
    (links : definition.Links paths owner spec stack) :
    ∃ service, stack.services.get? owner = some service :=
  Registry.get?_of_contains (links.hasDeclared.services owner
    (OrderedMap.contains_eq_true.mpr (List.mem_map_of_mem links.listed)))

/-! ### The search that comes first -/

/-- The dependencies of a definition in document order. -/
def dependencies (definition : StackDefinition) : List Dependency.Spec :=
  definition.services.values.flatMap Service.Spec.dependsOn

/-- Whether a definition lacks the service of a dependency. -/
def lacks (definition : StackDefinition) (dependency : Dependency.Spec) : Bool :=
  !definition.services.contains dependency.service

theorem undeclaredDependencies_eq (definition : StackDefinition) :
    definition.undeclaredDependencies =
      (definition.dependencies.filter definition.lacks).map Dependency.Spec.service := by
  unfold undeclaredDependencies dependencies
  rw [← List.map_flatMap, List.filter_map]
  rfl

theorem undeclaredDependencies_eq_nil : definition.undeclaredDependencies = [] ↔
    ∀ dependency ∈ definition.dependencies, definition.lacks dependency = false := by
  rw [undeclaredDependencies_eq, List.map_eq_nil_iff, List.filter_eq_nil_iff]
  simp only [Bool.not_eq_true]

/-- **A definition that lacks a service is refused for the first dependency on one**, whatever else
is wrong with it. -/
theorem build_lacking (named : definition.name = some name) (paths : KnownPaths)
    {missing : Dependency.Spec} (first : definition.dependencies.find? definition.lacks =
      some missing) : definition.build paths =
        .error (.dangling s!"stack definition '{name}'" .service missing.service) := by
  obtain ⟨rest, found⟩ : ∃ rest, definition.dependencies.filter definition.lacks =
      missing :: rest := List.head?_eq_some_iff.mp (List.head?_filter ▸ first)
  unfold build
  rw [named, undeclaredDependencies_eq, found]
  rfl

theorem contains_of_declared (declared : definition.undeclaredDependencies = []) {owner : String}
    {spec : Service.Spec} (listed : (owner, spec) ∈ definition.services.entries)
    {dependency : Dependency.Spec} (member : dependency ∈ spec.dependsOn) :
    definition.services.contains dependency.service = true := by
  have isDependency : dependency ∈ definition.dependencies :=
    List.mem_flatMap.mpr ⟨spec, List.mem_map_of_mem listed, member⟩
  simpa [lacks] using undeclaredDependencies_eq_nil.mp declared dependency isDependency

/-! ### Adding dependencies -/

/-- While a definition is built, a dependency is to be added to a service under a lookup. In the
first pass this would be done for the dependencies that are left of an entry, to a service of which
nothing is said here; in the second pass it is done to the service of the entry. -/
inductive AddsDependency (definition : StackDefinition) (paths : KnownPaths) (owner : String) :
    Dependency.Spec → EntityLookup → Service → Prop where
  | creating {spec : Service.Spec} {mode : Option NetworkMode} {dependency : Dependency.Spec}
    {lookup : EntityLookup} {begun service : Service}
    (listed : (owner, spec) ∈ definition.services.entries)
    (arrives : Arrives (fun dependency => Service.addDependencySpec dependency lookup)
      (withoutReferences spec mode).dependsOn begun dependency service) :
    AddsDependency definition paths owner dependency lookup service
  | linking {spec : Service.Spec} {stack : Stack} {dependency : Dependency.Spec}
    {begun service : Service} (links : definition.Links paths owner spec stack)
    (found : stack.services.get? owner = some begun)
    (arrives : Arrives (fun dependency => Service.addDependencySpec dependency stack.lookup)
      spec.dependsOn begun dependency service) :
    AddsDependency definition paths owner dependency stack.lookup service

end StackDefinition

namespace Service

/-- The condition of a dependency, if it can be read. -/
def conditionOf (dependency : Dependency.Spec) : Except Fault (Option DependencyCondition) :=
  dependency.condition.mapM DependencyCondition.ofWord

theorem addDependency_refuses {other : String} {condition : Option DependencyCondition}
    {lookup : EntityLookup} {service : Service} {fault : Fault} :
    (addDependency other condition lookup).Refuses service fault ↔
      (other = service.name ∧ fault = .malformed "depends_on" (.selfDependency service.name)) ∨
        other ≠ service.name ∧ lookup.hasService other = false ∧
          fault = .dangling service.owner .service other := by
  unfold addDependency Validation.ensure Refuses
  rw [apply_bind, apply_get]
  dsimp only
  by_cases same : other = service.name
  · subst same
    rw [if_pos rfl]
    simpa using eq_comm
  · rw [if_neg same]
    cases lookup.hasService other <;> simp [same, eq_comm]

theorem addDependencySpec_eq (dependency : Dependency.Spec) (lookup : EntityLookup) :
    addDependencySpec dependency lookup = (do
      let condition ← conditionOf dependency
      addDependency dependency.service condition lookup) := by
  obtain ⟨other, condition⟩ := dependency
  cases condition with
  | none => rfl
  | some word =>
    unfold addDependencySpec conditionOf
    simp only [Option.mapM_some]
    cases DependencyCondition.ofWord word <;> rfl

/-- **The faults of adding a dependency**, in the order in which they are looked for: the condition
cannot be read, the service is the one that waits, or it is missing. -/
theorem addDependencySpec_refuses {dependency : Dependency.Spec} {lookup : EntityLookup}
    {service : Service} {fault : Fault} :
    (addDependencySpec dependency lookup).Refuses service fault ↔
      conditionOf dependency = .error fault ∨ ∃ condition, conditionOf dependency = .ok condition ∧
        ((dependency.service = service.name ∧
            fault = .malformed "depends_on" (.selfDependency service.name)) ∨
          dependency.service ≠ service.name ∧ lookup.hasService dependency.service = false ∧
            fault = .dangling service.owner .service dependency.service) := by
  rw [addDependencySpec_eq, refuses_lift_bind]
  simp only [addDependency_refuses]

theorem arrives_name {lookup : EntityLookup} {dependencies : List Dependency.Spec}
    {begun service : Service} {dependency : Dependency.Spec}
    (arrives : Arrives (fun dependency => addDependencySpec dependency lookup) dependencies begun
      dependency service) : service.name = begun.name := by
  obtain ⟨earlier, _, _, accepted⟩ := arrives
  have through : (earlier.forM fun dependency => addDependencySpec dependency lookup).Through
      (Calls (· = lookup)) :=
    .forM_list (fun dependency => through_setting (.dependencySpec dependency)) earlier
  exact leads_name (through.leads accepted)

end Service

namespace StackDefinition

variable {definition : StackDefinition} {paths : KnownPaths} {name : String}

/-- **Every dependency that is to be added names a service that is there**, and is added to the
service of its entry. -/
theorem AddsDependency.there {owner : String} {dependency : Dependency.Spec} {lookup : EntityLookup}
    {service : Service} (adds : definition.AddsDependency paths owner dependency lookup service) :
    service.name = owner ∧ lookup.hasService dependency.service = true := by
  cases adds with
  | creating _ arrives => cases arrives.mem
  | linking links found arrives =>
    have has := links.hasDeclared
    refine ⟨(Service.arrives_name arrives).trans (has.sound.services.get? found).1, ?_⟩
    exact has.services _ (contains_of_declared links.declared links.listed arrives.mem)

/-! ### Where building is refused -/

theorem setReferences_refuses {spec : Service.Spec} {mode : Option NetworkMode}
    {lookup : EntityLookup} {service : Service} {fault : Fault}
    (refused : (setReferences spec mode lookup).Refuses service fault) :
    (∃ dependency here, Arrives (fun dependency => Service.addDependencySpec dependency lookup)
        spec.dependsOn service dependency here ∧
        (Service.addDependencySpec dependency lookup).Refuses here fault) ∨
      ∃ found here, mode = some found ∧ isDeferred found = true ∧
        (Service.setNetworkMode found lookup).Refuses here fault := by
  obtain refused | ⟨here, _, refused⟩ := refuses_bind.mp refused
  · exact .inl (refuses_forM.mp refused)
  · split at refused
    · rename_i found kept
      obtain ⟨same, deferred⟩ := Option.filter_eq_some_iff.mp kept
      exact .inr ⟨found, here, same, deferred, refused⟩
    · exact absurd refused not_refuses_pure

/-- Linking an entry is refused only where one of its references is. -/
theorem applyReferences_refuses {owner : String} {spec : Service.Spec}
    {stack : Stack} {begun : Service} {fault : Fault} (sound : stack.Sound)
    (found : stack.services.get? owner = some begun) (readable : ∃ mode, modeOf spec = .ok mode)
    (refused : (applyReferences owner spec).Refuses stack fault) : ∃ mode,
      modeOf spec = .ok mode ∧ (setReferences spec mode stack.lookup).Refuses begun fault := by
  obtain ⟨mode, read⟩ := readable
  obtain unread | ⟨again, readAgain, refused⟩ := refuses_lift_bind.mp refused
  · exact absurd (read.symm.trans unread) nofun
  · refine ⟨again, readAgain, ?_⟩
    split at refused
    · exact absurd refused not_refuses_pure
    · exact (Stack.updateService_refuses sound found (setReferences_through again _)).mp refused

theorem modeOf_of_applied {start first : Stack}
    (applied : definition.applyApart.Accepts start first) {owner : String}
    {spec : Service.Spec} (listed : (owner, spec) ∈ definition.services.entries) :
    ∃ mode, modeOf spec = .ok mode := by
  obtain ⟨_, _, applied⟩ := accepts_bind.mp applied
  obtain ⟨_, _, created⟩ := accepts_bind.mp applied
  exact (createAll_bare.mp created).1 (owner, spec) listed

/-- **Where building is refused** if no dependency is undeclared: the stack is not created, or not
all of the definition can be applied beside the references from service to service, or one of these
is refused: a dependency or a network mode. -/
theorem build_refused (named : definition.name = some name)
    (declared : definition.undeclaredDependencies = []) {fault : Fault}
    (refused : definition.build paths = .error fault) :
    Stack.create name paths = .error fault ∨
      (∃ start, Stack.create name paths = .ok start ∧ definition.applyApart.Refuses start fault) ∨
      (∃ owner dependency lookup service,
        definition.AddsDependency paths owner dependency lookup service ∧
          (Service.addDependencySpec dependency lookup).Refuses service fault) ∨
      ∃ owner spec stack mode service, definition.Links paths owner spec stack ∧
        modeOf spec = .ok (some mode) ∧ isDeferred mode = true ∧
        (Service.setNetworkMode mode stack.lookup).Refuses service fault := by
  unfold build at refused
  rw [named] at refused
  simp only [declared] at refused
  obtain notCreated | ⟨start, created, refused⟩ := bind_eq_error.mp refused
  · exact .inl notCreated
  obtain refused | ⟨_, _, refused⟩ := bind_eq_error.mp refused
  case inr => cases refused
  rw [onCopy_eq_error, apply_apart, refuses_bind] at refused
  obtain apart | ⟨first, applied, linked⟩ := refused
  · exact .inr (.inl ⟨start, created, apart⟩)
  obtain ⟨⟨owner, spec⟩, stack, arrives, linked⟩ := refuses_forM.mp linked
  have links : definition.Links paths owner spec stack :=
    .comes named declared created applied arrives
  have has := links.hasDeclared
  obtain ⟨begun, found⟩ := links.begun
  obtain ⟨mode, read, linked⟩ := applyReferences_refuses has.sound found
    (modeOf_of_applied applied links.listed) linked
  obtain ⟨dependency, here, arrives, refused⟩ | ⟨mode, here, rfl, deferred, refused⟩ :=
    setReferences_refuses linked
  · exact .inr (.inr (.inl
      ⟨owner, dependency, stack.lookup, here, .linking links found arrives, refused⟩))
  · exact .inr (.inr (.inr ⟨owner, spec, stack, mode, here, links, read, deferred, refused⟩))

end StackDefinition

/-- **Undeclared dependencies are found first, and only then.** If a definition lacks the service of
a dependency, it is refused for the first such dependency in document order, whatever else is wrong
with it. Wherever building comes to adding a dependency to a service, the service that it names is
there; the dependency is refused exactly if its condition cannot be read or it names the service
itself. If no service is lacking, building is refused before the references from service to service
are set, or for a dependency to which it comes, or for a network mode. -/
theorem undeclared_found_first {definition : StackDefinition} {name : String}
    (named : definition.name = some name) (paths : KnownPaths) :
    ((∃ dependency ∈ definition.dependencies, definition.lacks dependency = true) →
      ∃ missing, definition.dependencies.find? definition.lacks = some missing ∧
        definition.build paths =
          .error (.dangling s!"stack definition '{name}'" .service missing.service)) ∧
    (∀ owner dependency lookup service,
      definition.AddsDependency paths owner dependency lookup service →
        lookup.hasService dependency.service = true ∧
        ∀ fault, (Service.addDependencySpec dependency lookup).Refuses service fault ↔
          Service.conditionOf dependency = .error fault ∨
            (∃ condition, Service.conditionOf dependency = .ok condition) ∧
              dependency.service = owner ∧
              fault = .malformed "depends_on" (.selfDependency owner)) ∧
    ((∀ dependency ∈ definition.dependencies, definition.lacks dependency = false) →
      ∀ fault, definition.build paths = .error fault →
        Stack.create name paths = .error fault ∨
        (∃ start, Stack.create name paths = .ok start ∧
          definition.applyApart.Refuses start fault) ∨
        (∃ owner dependency lookup service,
          definition.AddsDependency paths owner dependency lookup service ∧
            (Service.addDependencySpec dependency lookup).Refuses service fault) ∨
        ∃ owner spec stack mode service, definition.Links paths owner spec stack ∧
          StackDefinition.modeOf spec = .ok (some mode) ∧
          StackDefinition.isDeferred mode = true ∧
          (Service.setNetworkMode mode stack.lookup).Refuses service fault) := by
  refine ⟨fun lacking => ?first, fun owner dependency lookup service adds => ?added,
    fun declared fault refused => ?refused⟩
  case first =>
    obtain ⟨missing, first⟩ := Option.isSome_iff_exists.mp (List.find?_isSome.mpr lacking)
    exact ⟨missing, first, StackDefinition.build_lacking named paths first⟩
  case added =>
    obtain ⟨rfl, there⟩ := adds.there
    refine ⟨there, fun fault => Service.addDependencySpec_refuses.trans ?_⟩
    simp only [there, Bool.true_eq_false, false_and, and_false, or_false, exists_and_right]
  case refused =>
    exact StackDefinition.build_refused named
      (StackDefinition.undeclaredDependencies_eq_nil.mpr declared) refused

/-- A definition whose services wait for each other, the first one for a later one. -/
def StackDefinition.crossed : StackDefinition := { StackDefinition.chained with
  services := .ofList [
    ("web", { Service.Spec.ofImage "nginx" with
      dependsOn := [⟨"api", some "service_healthy"⟩] }),
    ("api", { Service.Spec.ofImage "alpine" with dependsOn := [⟨"web", none⟩] })] }

/-- A definition that lacks two services and has a name that no stack can have. -/
def StackDefinition.lacking : StackDefinition := { StackDefinition.chained with
  name := some "no name"
  services := .ofList [
    ("web", { Service.Spec.ofImage "nginx" with dependsOn := [⟨"api", none⟩, ⟨"cache", none⟩] }),
    ("api", { Service.Spec.ofImage "alpine" with dependsOn := [⟨"queue", some "running"⟩] })] }

theorem undeclared_found_first_crossed :
    StackDefinition.lacking.build .everything =
      .error (.dangling "stack definition 'no name'" .service "cache") ∧
    ∃ lookup service, StackDefinition.crossed.AddsDependency .everything "web"
      ⟨"api", some "service_healthy"⟩ lookup service ∧ lookup.hasService "api" = true := by
  constructor
  · have named : StackDefinition.lacking.name = some "no name" := rfl
    obtain ⟨found, _⟩ := undeclared_found_first named .everything
    obtain ⟨missing, first, refused⟩ := found ⟨⟨"cache", none⟩, by decide +kernel⟩
    have same : StackDefinition.lacking.dependencies.find? StackDefinition.lacking.lacks =
      some ⟨"cache", none⟩ := by decide +kernel
    cases same.symm.trans first
    exact refused
  · have named : StackDefinition.crossed.name = some "shop" := rfl
    obtain ⟨_, added, _⟩ := undeclared_found_first named .everything
    have created : Stack.create "shop" .everything = .ok _ := rfl
    have links : StackDefinition.crossed.Links .everything "web" _ _ :=
      .comes named (by decide +kernel) created (Prod.ext (by decide +kernel) rfl)
        ⟨[], _, rfl, accepts_pure.mpr rfl⟩
    obtain ⟨service, found⟩ := links.begun
    have adds : StackDefinition.crossed.AddsDependency .everything "web"
        ⟨"api", some "service_healthy"⟩ _ _ :=
      .linking links found ⟨[], _, rfl, accepts_pure.mpr rfl⟩
    exact ⟨_, _, adds, (added _ _ _ _ adds).1⟩

end ContainerStack
