import ContainerStack.Proofs.Creating

/-!
**The two passes over the services of a document.**

The services of a document may refer to each other in any order. The first pass makes each of them
without its references to others, the second one sets them.

* `StackDefinition.createAll_accepts`: what the first pass leaves.
* `StackDefinition.linkAll_accepts`: the second pass makes of every service what its entry makes at
  once when all services are there. The check of all references that comes after each link refuses
  nothing.
-/

namespace ContainerStack

namespace StackDefinition

open Edit

/-! ### The first pass -/

/-- An entry without its references to other services, whether or not its network mode can be
read. -/
def bare (spec : Service.Spec) : Service.Spec :=
  withoutReferences spec ((modeOf spec).toOption.bind id)

theorem bare_eq {spec : Service.Spec} {mode : Option NetworkMode} (read : modeOf spec = .ok mode) :
    bare spec = withoutReferences spec mode := by
  rw [bare, read]
  rfl

theorem referredServices_withoutReferences {spec : Service.Spec} {mode : Option NetworkMode}
    (read : modeOf spec = .ok mode) : (withoutReferences spec mode).referredServices = [] := by
  have kept := modeOf_withoutReferences read
  unfold modeOf at kept
  unfold Service.Spec.referredServices
  cases left : (withoutReferences spec mode).networkMode with
  | none => rfl
  | some text =>
    rw [left] at kept
    obtain ⟨found, isMode, same⟩ := bind_eq_ok.mp kept
    have stays : mode.filter (fun mode => !isDeferred mode) = some found := Except.ok.inj same.symm
    have pointsNowhere : found.target? = none := by
      simpa [isDeferred] using (Option.filter_eq_some_iff.mp stays).2
    simp [withoutReferences, isMode, Except.toOption, pointsNowhere]

theorem referredServices_bare (spec : Service.Spec) : (bare spec).referredServices = [] := by
  cases read : modeOf spec with
  | ok mode =>
    rw [bare_eq read]
    exact referredServices_withoutReferences read
  | error fault =>
    rw [bare, read]
    rfl

/-- What is kept under a name is what an entry of that name makes without its references. -/
def MakesApart (lookup : EntityLookup) (entry : String × Service.Spec) (kept : String × Service) :
    Prop :=
  kept.1 = entry.1 ∧ ∃ mode, modeOf entry.2 = .ok mode ∧
    Service.ofSpec entry.1 (withoutReferences entry.2 mode) lookup = .ok kept.2

theorem createWithoutReferences_accepts {name : String} {spec : Service.Spec}
    {before after : Stack} :
    (createWithoutReferences name spec).Accepts before after ↔
      (∃ mode, modeOf spec = .ok mode) ∧
        (Stack.createService name (bare spec)).Accepts before after := by
  refine accepts_lift_bind.trans ?_
  constructor
  · rintro ⟨mode, read, accepted⟩
    rw [bare_eq read]
    exact ⟨⟨mode, read⟩, accepted⟩
  · rintro ⟨⟨mode, read⟩, accepted⟩
    rw [bare_eq read] at accepted
    exact ⟨mode, read, accepted⟩

theorem makesApart_iff {lookup : EntityLookup} {entry : String × Service.Spec}
    {kept : String × Service} : MakesApart lookup entry kept ↔
      (∃ mode, modeOf entry.2 = .ok mode) ∧
        Makes (fun name spec => Service.ofSpec name spec lookup) (entry.1, bare entry.2) kept := by
  constructor
  · rintro ⟨same, mode, read, made⟩
    refine ⟨⟨mode, read⟩, same, ?_⟩
    rwa [bare_eq read]
  · rintro ⟨⟨mode, read⟩, same, made⟩
    rw [bare_eq read] at made
    exact ⟨same, mode, read, made⟩

/-- The entries of services without their references. -/
def bareEntries (entries : List (String × Service.Spec)) : List (String × Service.Spec) :=
  entries.map fun entry => (entry.1, bare entry.2)

theorem refersBack_bareEntries (entries : List (String × Service.Spec)) (earlier : List String) :
    Stack.RefersBack earlier (bareEntries entries) := by
  induction entries generalizing earlier with
  | nil => trivial
  | cons entry rest ih =>
    refine ⟨fun other member => ?_, ih _⟩
    rw [referredServices_bare] at member
    cases member

theorem createAll_bare {entries : List (String × Service.Spec)} {before after : Stack} :
    (entries.forM fun entry => createWithoutReferences entry.1 entry.2).Accepts before after ↔
      (∀ entry ∈ entries, ∃ mode, modeOf entry.2 = .ok mode) ∧
        ((bareEntries entries).forM fun entry =>
          Stack.createService entry.1 entry.2).Accepts before after := by
  induction entries generalizing before with
  | nil => simp [bareEntries]
  | cons entry rest ih =>
    rw [bareEntries, List.map_cons, accepts_forM_cons, accepts_forM_cons, List.forall_mem_cons]
    simp only [createWithoutReferences_accepts, ih]
    constructor
    · rintro ⟨between, ⟨read, created⟩, others, later⟩
      exact ⟨⟨read, others⟩, between, created, later⟩
    · rintro ⟨⟨read, others⟩, between, created, later⟩
      exact ⟨between, ⟨read, created⟩, others, later⟩

/-- **The first pass makes every service without its references.** -/
theorem createAll_accepts {lookup : EntityLookup} {entries : List (String × Service.Spec)}
    {before after : Stack} (ready : before.Ready lookup (bareEntries entries)) :
    (entries.forM fun entry => createWithoutReferences entry.1 entry.2).Accepts before after ↔
      ∃ kept services main, List.Forall₂ (MakesApart lookup) entries kept ∧
        services.entries.entries = before.services.entries.entries ++ kept ∧
        before.mainService.toList ++ Stack.mains entries = main.toList ∧
        after = { before with services := services, mainService := main } := by
  have mains : Stack.mains (bareEntries entries) = Stack.mains entries := by
    simp only [Stack.mains, bareEntries, List.filter_map, List.map_map]
    rfl
  have apart (kept : List (String × Service)) :
      List.Forall₂ (MakesApart lookup) entries kept ↔
        (∀ entry ∈ entries, ∃ mode, modeOf entry.2 = .ok mode) ∧
          List.Forall₂ (Makes fun name spec => Service.ofSpec name spec lookup)
            (bareEntries entries) kept := by
    rw [bareEntries, List.forall₂_map_left_iff, ← List.forall₂_and_left]
    have same : MakesApart lookup = _ := funext₂ fun _ _ => propext makesApart_iff
    rw [same]
  rw [createAll_bare, Stack.createServices_accepts ready, mains]
  simp only [apart]
  constructor
  · rintro ⟨read, kept, services, main, made, rest⟩
    exact ⟨kept, services, main, ⟨read, made⟩, rest⟩
  · rintro ⟨kept, services, main, ⟨read, made⟩, rest⟩
    exact ⟨read, kept, services, main, made, rest⟩

/-- What an entry makes at once, it also makes without its references. -/
theorem exists_makesApart {lookup : EntityLookup} {entries : List (String × Service.Spec)}
    {made : List (String × Service)}
    (makes : List.Forall₂ (Makes fun name spec => Service.ofSpec name spec lookup) entries made) :
    ∃ kept, List.Forall₂ (MakesApart lookup) entries kept := by
  induction makes with
  | nil => exact ⟨[], .nil⟩
  | @cons entry _ _ _ here _ ih =>
    obtain ⟨mode, read, service, halfMade, _⟩ := ofSpec_linked.mp here.2
    obtain ⟨kept, others⟩ := ih
    exact ⟨(entry.1, service) :: kept, .cons ⟨rfl, mode, read, halfMade⟩ others⟩

/-! ### The second pass -/

section Linking

variable {name : String} {spec : Service.Spec} {service : Service} {before after : Stack}

theorem setReferences_through (mode : Option NetworkMode) (lookup : EntityLookup) :
    (setReferences spec mode lookup).Through (Service.Calls (· = lookup)) := by
  refine .bind (.forM_list (fun dependency =>
    Service.through_setting (.dependencySpec dependency)) _) fun _ => ?_
  cases mode.filter isDeferred with
  | none => exact .of_asks (.pure _)
  | some deferred => exact Service.through_setting (.networkMode deferred)

/-- An entry that refers to no other service links nothing. -/
theorem setReferences_nothing {mode : Option NetworkMode} {lookup : EntityLookup}
    (alone : spec.dependsOn.isEmpty = true) (undeferred : mode.any isDeferred = false) :
    (setReferences spec mode lookup).Accepts = Eq := by
  have none : mode.filter isDeferred = none := by
    cases mode with
    | none => rfl
    | some found =>
      have stays : isDeferred found = false := by simpa using undeferred
      simp [stays]
  have dependencies : (Service.applyDependencies spec lookup).Accepts = Eq := by
    rw [Service.applyDependencies, List.isEmpty_iff.mp alone]
    exact accepts_done
  rw [setReferences_accepts, none, setMode_none, Relation.comp_eq, dependencies]

theorem updateService_accepts {edit : EntityLookup → Edit Service Unit}
    (found : before.services.get? name = some service) :
    (Stack.updateService name edit).Accepts before after ↔
      ∃ edited, (edit before.lookup).Accepts service edited ∧ edited.Resolved before.lookup ∧
        before.services.contains edited.name = true ∧
        after = { before with services := before.services.put edited.name edited } := by
  unfold Stack.updateService
  rw [accepts_get_bind]
  simp only [found]
  rw [accepts_lift_bind]
  constructor
  · rintro ⟨⟨_, edited⟩, applied, rest⟩
    rw [accepts_check_bind, Service.checkReferences_eq_ok, accepts_lift_bind] at rest
    obtain ⟨resolved, services, replaced, rest⟩ := rest
    obtain ⟨there, rfl⟩ := Registry.replace_eq_ok.mp replaced
    obtain ⟨_, stored, same⟩ := accepts_bind.mp rest
    cases accepts_set.mp stored
    exact ⟨edited, onCopy_eq_ok.mp applied, resolved, there, accepts_pure.mp same⟩
  · rintro ⟨edited, applied, resolved, there, rfl⟩
    refine ⟨((), edited), onCopy_eq_ok.mpr applied, ?_⟩
    rw [accepts_check_bind, Service.checkReferences_eq_ok, accepts_lift_bind]
    exact ⟨resolved, _, Registry.replace_eq_ok.mpr ⟨there, rfl⟩,
      accepts_bind.mpr ⟨_, accepts_set.mpr rfl, accepts_pure.mpr rfl⟩⟩

/-- **Linking a service** that stands under its name and is resolved puts the linked service in its
place. The check of all references that comes last refuses nothing. -/
theorem applyReferences_accepts (found : before.services.get? name = some service)
    (named : service.name = name) (resolved : service.Resolved before.lookup) :
    (applyReferences name spec).Accepts before after ↔ ∃ mode, modeOf spec = .ok mode ∧
      ∃ linked, (setReferences spec mode before.lookup).Accepts service linked ∧
        after = { before with services := before.services.put name linked } := by
  have there : before.services.contains name = true := Registry.contains_of_get? found
  refine accepts_lift_bind.trans (exists_congr fun mode => and_congr_right fun _ => ?_)
  split
  · rename_i nothing
    obtain ⟨alone, undeferred⟩ := Bool.and_eq_true_iff.mp nothing
    have links : (setReferences spec mode before.lookup).Accepts = Eq :=
      setReferences_nothing alone (by simpa using undeferred)
    have unchanged : { before with services := before.services.put name service } = before := by
      rw [Registry.put_found found]
    simp only [links, accepts_pure, exists_eq_left', unchanged]
  · rw [updateService_accepts found]
    refine exists_congr fun linked => and_congr_right fun accepted => ?_
    have leads := (setReferences_through mode before.lookup).leads accepted
    have sameName : linked.name = name := (Service.leads_name leads).trans named
    simp [Service.leads_resolved leads resolved, sameName, there]

end Linking

/-- Linking what an entry makes without its references gives what it makes at once. -/
theorem linked_iff {name : String} {spec : Service.Spec} {mode : Option NetworkMode}
    {lookup : EntityLookup} {service linked : Service} (read : modeOf spec = .ok mode)
    (made : Service.ofSpec name (withoutReferences spec mode) lookup = .ok service) :
    (∃ mode, modeOf spec = .ok mode ∧ (setReferences spec mode lookup).Accepts service linked) ↔
      Service.ofSpec name spec lookup = .ok linked := by
  rw [ofSpec_linked]
  constructor
  · rintro ⟨mode', again, links⟩
    cases Except.ok.inj (read.symm.trans again)
    exact ⟨mode, read, service, made, links⟩
  · rintro ⟨mode', again, other, remade, links⟩
    cases Except.ok.inj (read.symm.trans again)
    cases Except.ok.inj (made.symm.trans remade)
    exact ⟨mode, read, links⟩

theorem lookup_put_taken {stack : Stack} {name : String} {service : Service}
    (taken : stack.services.contains name = true) :
    Stack.lookup { stack with services := stack.services.put name service } = stack.lookup := by
  have same : (stack.services.put name service).contains = stack.services.contains := by
    funext other
    rw [Bool.eq_iff_iff, Registry.contains_iff, Registry.contains_iff,
      Registry.names_put_taken (Registry.contains_iff.mp taken)]
  unfold Stack.lookup
  rw [same]

/-- **The second pass makes of every service what its entry makes at once.** -/
theorem linkAll_accepts {lookup : EntityLookup} {entries : List (String × Service.Spec)}
    {kept done : List (String × Service)} {before after : Stack}
    (apart : List.Forall₂ (MakesApart lookup) entries kept) (known : before.lookup = lookup)
    (held : before.services.entries.entries = done ++ kept) :
    (entries.forM fun entry => applyReferences entry.1 entry.2).Accepts before after ↔
      ∃ made services,
        List.Forall₂ (Makes fun name spec => Service.ofSpec name spec lookup) entries made ∧
        services.entries.entries = done ++ made ∧
        after = { before with services := services } := by
  -- Services that are linked already stand before those that are not; names stay in their places,
  -- so every link sees the lookup of the whole definition.
  induction apart generalizing before done with
  | nil =>
    refine accepts_pure.trans ?_
    constructor
    · rintro rfl
      exact ⟨[], after.services, .nil, held, rfl⟩
    · rintro ⟨_, services, _ | _, same, rfl⟩
      rw [Registry.eq_of_entries (same.trans held.symm)]
  | @cons entry first rest others here later ih =>
    obtain ⟨_, spec⟩ := entry
    obtain ⟨name, service⟩ := first
    obtain ⟨rfl, mode, read, halfMade⟩ := here
    obtain ⟨named, _, resolved⟩ := Service.ofSpec_eq_ok halfMade
    have found : before.services.get? name = some service :=
      Registry.get?_eq_some.mpr (held ▸ List.mem_append_right _ List.mem_cons_self)
    have lookupKept (linked : Service) :
        Stack.lookup { before with services := before.services.put name linked } = lookup :=
      (lookup_put_taken (Registry.contains_of_get? found)).trans known
    have goesOn (linked : Service) := ih (lookupKept linked)
      ((Registry.entries_put_taken held).trans (List.append_cons _ _ _))
    rw [accepts_forM_cons]
    simp only [applyReferences_accepts found named (known ▸ resolved), known]
    constructor
    · rintro ⟨_, ⟨mode, again, linked, links, rfl⟩, later⟩
      obtain ⟨made, services, others, same, rfl⟩ := (goesOn linked).mp later
      have makes := (linked_iff read halfMade).mp ⟨mode, again, links⟩
      exact ⟨_, services, .cons ⟨rfl, makes⟩ others, same.trans (List.append_cons _ _ _).symm, rfl⟩
    · rintro ⟨_, services, all, same, rfl⟩
      obtain ⟨⟨_, linked⟩, made, ⟨rfl, makes⟩, others, rfl⟩ := List.forall₂_cons_left_iff.mp all
      obtain ⟨mode, again, links⟩ := (linked_iff read halfMade).mpr makes
      exact ⟨_, ⟨mode, again, linked, links, rfl⟩, (goesOn linked).mpr
        ⟨made, services, others, same.trans (List.append_cons _ _ _), rfl⟩⟩

end StackDefinition

end ContainerStack
