import ContainerStack.Proofs.Changes
import ContainerStack.Proofs.Registries

/-!
**What a service refers to, and what its setters make sure of.**

* `Service.Resolved`: a lookup has everything that the service names.
* `Service.checkReferences_eq_ok`: that is what the check of all references tests.
* `Service.Coherent`: what holds of a service whatever its lookups were: its name is a name, it
  names itself nowhere, and it has no network mode beside networks.
* `Service.Built`: the service was created and then changed by setters; `Built.coherent`.
* `Service.ofSpec_eq_ok`: the service of a definition is resolved by the lookup of the
  definition.
-/

namespace ContainerStack

namespace Service

/-! ### References and the lookup that resolves them -/

/-- The service that the network mode points at. -/
def modeTarget? (service : Service) : Option String := service.networkMode.bind NetworkMode.target?

/-- A lookup has everything that the service names. -/
structure Resolved (lookup : EntityLookup) (service : Service) : Prop where
  volumes : ∀ name ∈ service.namedVolumes, lookup.hasVolume name = true
  envFiles : ∀ path ∈ service.envFiles, lookup.pathExists path = true
  dependencies : ∀ other ∈ service.dependsOn.keys, lookup.hasService other = true
  networks : ∀ name ∈ service.networks, lookup.hasNetwork name = true
  modeTarget : ∀ target, service.modeTarget? = some target → lookup.hasService target = true
  secrets : ∀ name ∈ service.secrets, lookup.hasSecret name = true
  configs : ∀ name ∈ service.configs.map ConfigReference.source, lookup.hasConfig name = true

theorem resolve_eq_ok {service : Service} {kind : EntityKind} {isThere : String → Bool}
    {names : List String} {answer : Unit} :
    service.resolve kind isThere names = .ok answer ↔ ∀ name ∈ names, isThere name = true := by
  unfold resolve
  split
  · rename_i missing found
    have absent := List.find?_some found
    have member := List.mem_of_find?_eq_some found
    refine ⟨nofun, fun all => ?_⟩
    simp [all missing member] at absent
  · rename_i found
    simpa using found

/-- **The check of all references accepts exactly the services that are resolved.** -/
theorem checkReferences_eq_ok {service : Service} {lookup : EntityLookup} :
    service.checkReferences lookup = .ok () ↔ service.Resolved lookup := by
  unfold checkReferences
  simp only [Edit.bind_eq_ok, resolve_eq_ok, exists_const]
  constructor
  · rintro ⟨volumes, envFiles, dependencies, networks, target, secrets, configs⟩
    refine ⟨volumes, envFiles, dependencies, networks, fun name points => ?_, secrets, configs⟩
    exact target name (Option.mem_toList.mpr points)
  · rintro ⟨volumes, envFiles, dependencies, networks, target, secrets, configs⟩
    refine ⟨volumes, envFiles, dependencies, networks, fun name points => ?_, secrets, configs⟩
    exact target name (Option.mem_toList.mp points)

/-- **What one lookup resolves, another one resolves that has no less.** -/
theorem Resolved.mono {first second : EntityLookup} {service : Service}
    (resolved : service.Resolved first)
    (services : ∀ name, first.hasService name = true → second.hasService name = true)
    (networks : ∀ name, first.hasNetwork name = true → second.hasNetwork name = true)
    (volumes : ∀ name, first.hasVolume name = true → second.hasVolume name = true)
    (secrets : ∀ name, first.hasSecret name = true → second.hasSecret name = true)
    (configs : ∀ name, first.hasConfig name = true → second.hasConfig name = true)
    (paths : ∀ path, first.pathExists path = true → second.pathExists path = true) :
    service.Resolved second where
  volumes name member := volumes name (resolved.volumes name member)
  envFiles path member := paths path (resolved.envFiles path member)
  dependencies other member := services other (resolved.dependencies other member)
  networks name member := networks name (resolved.networks name member)
  modeTarget target points := services target (resolved.modeTarget target points)
  secrets name member := secrets name (resolved.secrets name member)
  configs name member := configs name (resolved.configs name member)

/-! ### Setters and references -/

theorem mem_appendNew {items : List String} {item other : String}
    (member : other ∈ appendNew items item) : other ∈ items ∨ other = item := by
  unfold appendNew at member
  split at member
  · exact .inl member
  · simpa using member

theorem all_appendNew {items : List String} {item : String} {holds : String → Prop}
    (before : ∀ other ∈ items, holds other) (new : holds item) :
    ∀ other ∈ appendNew items item, holds other := by
  intro other member
  rcases mem_appendNew member with there | rfl
  · exact before other there
  · exact new

theorem all_keys_insert {α : Type} {entriesMap : OrderedMap α} {key : String} {value : α}
    {holds : String → Prop} (before : ∀ other ∈ entriesMap.keys, holds other) (new : holds key) :
    ∀ other ∈ (entriesMap.insert key value).keys, holds other := by
  intro other member
  rcases OrderedMap.mem_keys_insert.mp member with rfl | there
  · exact new
  · exact before other there

theorem namedVolumes_append {service : Service} {mount : Mount} :
    namedVolumes { service with mounts := service.mounts ++ [mount] } =
      service.namedVolumes ++ match mount with
        | .named name _ _ => [name]
        | _ => [] := by
  cases mount <;> simp [namedVolumes]

section Setters

variable {lookup : EntityLookup} {service : Service}

/-- **A setter whose lookup has what the call names keeps the service resolved.** -/
theorem Resolved.change {setting : Setting} (resolved : service.Resolved lookup)
    (checked : setting.Checked lookup service) : (setting.change service).Resolved lookup := by
  cases setting with
  | mount mount =>
    refine { resolved with volumes := fun name member => ?_ }
    rw [Setting.change, namedVolumes_append, List.mem_append] at member
    rcases member with before | new
    · exact resolved.volumes name before
    · cases mount with
      | named volume path mode => exact List.mem_singleton.mp new ▸ checked
      | anonymous path => cases new
      | bind hostPath path mode => cases new
  | port port =>
    simp only [Setting.change]
    split
    · exact resolved
    · exact { resolved with }
  | envFile path =>
    exact { resolved with envFiles := all_appendNew resolved.envFiles checked }
  | dependency other condition =>
    exact { resolved with dependencies := all_keys_insert resolved.dependencies checked.2 }
  | dependencySpec spec =>
    exact { resolved with dependencies := all_keys_insert resolved.dependencies checked.2 }
  | network name =>
    exact { resolved with networks := all_appendNew resolved.networks checked.2 }
  | networkMode mode =>
    exact { resolved with modeTarget := fun target points => (checked.2 target points).2 }
  | secret name => exact { resolved with secrets := all_appendNew resolved.secrets checked }
  | config reference =>
    refine { resolved with configs := fun name member => ?_ }
    simp only [Setting.change, List.map_append, List.mem_append] at member
    rcases member with before | new
    · exact resolved.configs name before
    · exact List.mem_singleton.mp new ▸ checked
  | _ => exact { resolved with }

/-- What holds of a service whatever its lookups were. -/
structure Coherent (service : Service) : Prop where
  named : isEntityName service.name = true
  notItsDependency : ∀ other ∈ service.dependsOn.keys, other ≠ service.name
  notItsModeTarget : ∀ target, service.modeTarget? = some target → target ≠ service.name
  modeOrNetworks : service.networkMode = none ∨ service.networks = []

/-- **Every accepted call of a setter keeps a service coherent.** -/
theorem Coherent.change {setting : Setting} (coherent : service.Coherent)
    (checked : setting.Checked lookup service) : (setting.change service).Coherent := by
  cases setting with
  | port port =>
    simp only [Setting.change]
    split
    · exact coherent
    · exact { coherent with }
  | dependency other condition =>
    exact { coherent with
      notItsDependency := all_keys_insert coherent.notItsDependency checked.1 }
  | dependencySpec spec =>
    exact { coherent with
      notItsDependency := all_keys_insert coherent.notItsDependency checked.1 }
  | network name => exact { coherent with modeOrNetworks := .inl checked.1 }
  | networkMode mode =>
    exact { coherent with
      notItsModeTarget := fun target points => (checked.2 target points).1
      modeOrNetworks := .inr checked.1 }
  | _ => exact { coherent with }

end Setters

/-! ### Chains of setters -/

/-- **What every accepted call keeps is kept along a chain of calls.** -/
theorem leads_keeps {admitted : EntityLookup → Prop} {holds : Service → Prop}
    (kept : ∀ lookup setting service, admitted lookup → holds service →
      Setting.Checked lookup service setting → holds (setting.change service))
    {before after : Service} (leads : Edit.Leads (Calls admitted) before after)
    (start : holds before) : holds after := by
  refine leads.keeps holds (fun edit call service here => ?_) start
  obtain ⟨lookup, setting, known, rfl⟩ := call
  exact (setting_assigns setting).left holds here (kept lookup setting service known here)

theorem leads_name {admitted : EntityLookup → Prop} {before after : Service}
    (leads : Edit.Leads (Calls admitted) before after) : after.name = before.name := by
  refine leads.keeps_view Service.name fun edit call service => ?_
  obtain ⟨lookup, setting, _, rfl⟩ := call
  exact (setting_assigns setting).left (fun left => left.name = service.name) rfl
    fun _ => setting.change_name service

theorem leads_coherent {admitted : EntityLookup → Prop} {before after : Service}
    (leads : Edit.Leads (Calls admitted) before after) (coherent : before.Coherent) :
    after.Coherent :=
  leads_keeps (fun _ _ _ _ here checked => here.change checked) leads coherent

theorem leads_resolved {lookup : EntityLookup} {before after : Service}
    (leads : Edit.Leads (Calls (· = lookup)) before after) (resolved : before.Resolved lookup) :
    after.Resolved lookup :=
  leads_keeps (fun _ _ _ same here checked => here.change (same ▸ checked)) leads resolved

/-- **A service that was just created** has its name and refers to nothing. -/
theorem create_eq_ok {name : String} {service : Service} (created : create name = .ok service) :
    service.name = name ∧ service.Coherent ∧ ∀ lookup, service.Resolved lookup := by
  obtain ⟨_, valid, same⟩ := Edit.bind_eq_ok.mp created
  cases same
  refine ⟨rfl, ⟨Validation.name_eq_ok.mp valid, ?_, ?_, .inl rfl⟩, fun lookup => ?_⟩
  · intro other member
    cases member
  · intro target points
    cases points
  · constructor <;> intro other member <;> cases member

/-- The service was created and then changed by setters, with whatever lookups. -/
abbrev Built : Service → Prop := Edit.Made create AnyCalls

theorem Built.coherent {service : Service} (built : service.Built) : service.Coherent := by
  obtain ⟨_, start, created, leads⟩ := built
  exact leads_coherent leads (create_eq_ok created).2.1

/-- **The service of a definition** has the name that it was given, was built by setters, and
resolves by the lookup of the definition. -/
theorem ofSpec_eq_ok {name : String} {spec : Spec} {lookup : EntityLookup} {service : Service}
    (made : ofSpec name spec lookup = .ok service) :
    service.name = name ∧ service.Built ∧ service.Resolved lookup := by
  obtain ⟨start, created, leads⟩ := (applySpec_through spec).of_created made
  obtain ⟨named, _, resolved⟩ := create_eq_ok created
  exact ⟨(leads_name leads).trans named, ⟨name, start, created, leads.mono fun _ => Calls.any⟩,
    leads_resolved leads (resolved lookup)⟩

end Service

end ContainerStack
