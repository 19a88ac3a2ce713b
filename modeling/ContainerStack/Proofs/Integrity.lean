import ContainerStack.Proofs.Operations

/-!
**References stay inside their stack.**

Services may have been built and edited with lookups of other stacks. What keeps their references
inside is that all of them are resolved again when a service is added or edited, that the setters of
a definition use the lookup of the stack itself, and that no registry ever loses a name.

* `Stack.Grows`: no name is lost in any registry; `Step.grows`.
* `Stack.Sound`: what holds of every stack that is reached; `Step.sound`, `Reached.sound`.
* `references_resolve`: every reference of every service is registered in the stack of the service,
  and no service depends on itself or shares its own network.
-/

namespace ContainerStack

namespace Stack

/-! ### Growing registries -/

/-- No registry of the first stack has a name that is missing in the second, and the files are the
same. -/
structure Grows (before after : Stack) : Prop where
  services : before.services.Covers after.services
  networks : before.networks.Covers after.networks
  volumes : before.volumes.Covers after.volumes
  secrets : before.secrets.Covers after.secrets
  configs : before.configs.Covers after.configs
  paths : after.paths = before.paths

theorem Grows.refl (stack : Stack) : stack.Grows stack :=
  ⟨.refl _, .refl _, .refl _, .refl _, .refl _, rfl⟩

/-- **No step loses a name.** -/
theorem Step.grows {before after : Stack} (step : before.Step after) : before.Grows after := by
  cases step with
  | serviceAdded => exact { Grows.refl before with services := Registry.covers_put }
  | serviceEdited => exact { Grows.refl before with services := Registry.covers_put }
  | networkAdded => exact { Grows.refl before with networks := Registry.covers_put }
  | networkEdited => exact { Grows.refl before with networks := Registry.covers_put }
  | volumeAdded => exact { Grows.refl before with volumes := Registry.covers_put }
  | volumeEdited => exact { Grows.refl before with volumes := Registry.covers_put }
  | secretAdded => exact { Grows.refl before with secrets := Registry.covers_put }
  | configAdded => exact { Grows.refl before with configs := Registry.covers_put }
  | _ => exact { Grows.refl before with }

/-- **What is resolved stays resolved in a stack that has grown.** -/
theorem Grows.resolved {before after : Stack} (grows : before.Grows after) {service : Service}
    (resolved : service.Resolved before.lookup) : service.Resolved after.lookup :=
  resolved.mono grows.services grows.networks grows.volumes grows.secrets grows.configs
    fun path known => by rwa [lookup, grows.paths]

/-! ### Sound stacks -/

/-- **What holds of every stack that is reached**: entities stand under their names and were built
by their setters, services name only entities of the stack, and nothing is being rendered. -/
structure Sound (stack : Stack) : Prop where
  services : stack.services.Every fun service =>
    service.Built ∧ service.Resolved stack.lookup
  networks : stack.networks.Every Network.Built
  volumes : stack.volumes.Every Volume.Built
  secrets : stack.secrets.Every fun secret => isEntityName secret.name = true
  configs : stack.configs.Every fun config => isEntityName config.name = true
  idle : stack.phase = .idle

theorem create_sound {name : String} {paths : KnownPaths} {stack : Stack}
    (created : create name paths = .ok stack) : stack.Sound := by
  obtain ⟨_, _, created⟩ := Edit.bind_eq_ok.mp created
  obtain ⟨_, _, same⟩ := Edit.bind_eq_ok.mp created
  cases same
  exact ⟨.empty, .empty, .empty, .empty, .empty, rfl⟩

/-- **Every step keeps a stack sound.** -/
theorem Step.sound {before after : Stack} (sound : before.Sound) (step : before.Step after) :
    after.Sound := by
  have grows := step.grows
  have services : before.services.Every fun service =>
      service.Built ∧ service.Resolved after.lookup :=
    sound.services.mono fun _ both => both.imp id grows.resolved
  cases step with
  | serviceAdded service built resolved =>
    exact { sound with
      services := services.put ⟨built, grows.resolved resolved⟩ }
  | serviceEdited name start edited found leads resolved =>
    have built := (sound.services.get? found).2.1.leads leads
    exact { sound with
      services := services.put ⟨built, grows.resolved resolved⟩ }
  | networkAdded network built =>
    exact { sound with services := services, networks := sound.networks.put built }
  | networkEdited name start edited found leads =>
    have built := (sound.networks.get? found).2.leads leads
    exact { sound with services := services, networks := sound.networks.put built }
  | volumeAdded volume built =>
    exact { sound with services := services, volumes := sound.volumes.put built }
  | volumeEdited name start edited found leads =>
    have built := (sound.volumes.get? found).2.leads leads
    exact { sound with services := services, volumes := sound.volumes.put built }
  | secretAdded secret made =>
    obtain ⟨_, _, made⟩ := made
    exact { sound with
      services := services, secrets := sound.secrets.put (Secret.ofSpec_eq_ok made).2 }
  | configAdded config made =>
    obtain ⟨_, _, made⟩ := made
    exact { sound with
      services := services, configs := sound.configs.put (ConfigFile.ofSpec_eq_ok made).2 }
  | _ => exact { sound with services := services }

theorem Reached.sound {stack : Stack} (reached : stack.Reached) : stack.Sound :=
  reached.keeps (fun _ _ _ => create_sound) fun _ _ => Step.sound

/-! ### References -/

/-- Everything that a service names is registered in the stack, and the service names itself neither
as a dependency nor as the owner of its network. -/
structure Resolves (stack : Stack) (service : Service) : Prop where
  volumes : ∀ name path mode, .named name path mode ∈ service.mounts →
    stack.volumes.contains name = true
  networks : ∀ name ∈ service.networks, stack.networks.contains name = true
  secrets : ∀ name ∈ service.secrets, stack.secrets.contains name = true
  configs : ∀ config ∈ service.configs, stack.configs.contains config.source = true
  dependencies : ∀ other ∈ service.dependsOn.keys,
    stack.services.contains other = true ∧ other ≠ service.name
  modeTarget : ∀ target, service.networkMode = some (.service target) →
    stack.services.contains target = true ∧ target ≠ service.name

theorem Sound.resolves {stack : Stack} (sound : stack.Sound) {service : Service}
    (registered : service ∈ stack.services.toList) : stack.Resolves service := by
  obtain ⟨built, resolved⟩ := sound.services.of_mem registered
  have coherent := built.coherent
  refine ⟨fun name path mode mounted => ?_, resolved.networks, resolved.secrets,
    fun config used => ?_, fun other awaited => ?_, fun target mode => ?_⟩
  · exact resolved.volumes name (List.mem_filterMap.mpr ⟨_, mounted, rfl⟩)
  · exact resolved.configs config.source (List.mem_map_of_mem used)
  · exact ⟨resolved.dependencies other awaited, coherent.notItsDependency other awaited⟩
  · have points : service.modeTarget? = some target := by
      rw [Service.modeTarget?, mode]
      rfl
    exact ⟨resolved.modeTarget target points, coherent.notItsModeTarget target points⟩

end Stack

/-- **References stay inside their stack.** After every run of operations from a new stack, whatever
lookups the services that were added and the edits of services used, every service names only what
is registered in that stack, and itself neither as a dependency nor as the owner of its network. -/
theorem references_resolve {name : String} {paths : KnownPaths} {start : Stack}
    (created : Stack.create name paths = .ok start) (operations : List Stack.Operation) :
    ∀ service ∈ (start.run operations).services.toList,
      (start.run operations).Resolves service := by
  have reached : (start.run operations).Reached := ⟨name, paths, start, operations, created, rfl⟩
  exact fun service registered => reached.sound.resolves registered

/-! ### A stack with foreign services -/

/-- The lookup of a stack in which everything is there. -/
def EntityLookup.everything : EntityLookup :=
  ⟨fun _ => true, fun _ => true, fun _ => true, fun _ => true, fun _ => true, fun _ => true⟩

/-- A run that adds two services built elsewhere. The dependency of `web` and its volume are there
when it is added; `stray` names a network that is not, and so does the edit of `db`. -/
def Stack.foreignRun {db web stray : Service} (dbCreated : Service.create "db" = .ok db)
    (webCreated : Service.create "web" = .ok web)
    (strayCreated : Service.create "stray" = .ok stray) : List Stack.Operation :=
  [.createVolume "data" ⟨none, .empty, none, .empty, none, none, false, none⟩,
    .addService _ (Service.assembled_built dbCreated .everything [.image "postgres"]),
    .addService _ (Service.assembled_built webCreated .everything
      [.image "nginx", .mount (.named "data" "/srv" none), .dependency "db" none]),
    .addService _ (Service.assembled_built strayCreated .everything [.network "elsewhere"]),
    .updateService "db" fun _ => Service.Setting.sequence .everything [.network "elsewhere"]]

theorem references_resolve_foreignRun :
    ∃ start db web stray, ∃ (dbCreated : Service.create "db" = .ok db)
      (webCreated : Service.create "web" = .ok web)
      (strayCreated : Service.create "stray" = .ok stray),
      Stack.create "shop" .everything = .ok start ∧
      let left := start.run (Stack.foreignRun dbCreated webCreated strayCreated)
      (left.services.toList.map fun service =>
        (service.name, service.namedVolumes, service.dependsOn.keys, service.networks)) =
          [("db", [], [], []), ("web", ["data"], ["db"], [])] ∧
      ∀ service ∈ left.services.toList, left.Resolves service := by
  have created : Stack.create "shop" .everything = .ok _ := rfl
  refine ⟨_, _, _, _, rfl, rfl, rfl, created, ?_, references_resolve created _⟩
  decide

end ContainerStack
