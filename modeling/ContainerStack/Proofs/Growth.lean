import ContainerStack.Proofs.Creating
import ContainerStack.Proofs.Integrity
import ContainerStack.Proofs.Templates

/-!
**Registries grow by one, at the end.**

A stack has five registries and a template has one. Every operation names at most one entity of one
kind: it creates the entity, which is appended, or edits it, which leaves it in its place. All else
is left alone, so the names that were registered first are always the first names.

* `Registry.Keyed`: entities stand under their own names, each name once.
* `Registry.Appends`, `Registry.EditsAt`: one registry before and after.
* `Stack.Kind`, `Stack.registry`: the registries of a stack by the kind of their entities.
* `Operation.creates?`, `Operation.edits?`: what an operation names.
* `Stack.GrowsAtEnd`, `Template.GrowsAtEnd`: what all operations do to the registries.
* `registries_grow`: this holds of every stack and every template that is reached.
-/

namespace ContainerStack

open Edit

/-! ### One registry -/

namespace Registry

variable {α : Type}

/-- Every entity stands under its own name, and no name occurs twice. -/
structure Keyed [Named α] (registry : Registry α) : Prop where
  own : ∀ name entity, registry.get? name = some entity → Named.name entity = name
  distinct : registry.names.Nodup

theorem Every.keyed [Named α] {holds : α → Prop} {registry : Registry α}
    (every : registry.Every holds) : registry.Keyed :=
  ⟨fun _ _ found => (every.get? found).1, registry.entries.keys_nodup⟩

/-- The registry has grown by one entity at its end: all others stand where they stood. -/
structure Appends (name : String) (before after : Registry α) : Prop where
  vacant : name ∉ before.names
  entries : ∃ entity, after.entries.entries = before.entries.entries ++ [(name, entity)]
  names : after.names = before.names ++ [name]

/-- The registry has the same names in the same order, and nothing but the entity of one name has
changed. -/
structure EditsAt (name : String) (before after : Registry α) : Prop where
  names : after.names = before.names
  others : ∀ other, other ≠ name → after.get? other = before.get? other

variable {registry : Registry α} {name : String} {entity old : α}

theorem appends_put (vacant : registry.contains name = false) :
    Appends name registry (registry.put name entity) where
  vacant := contains_eq_false.mp vacant
  entries := ⟨entity, entries_put_vacant (contains_eq_false.mp vacant)⟩
  names := names_put_vacant (contains_eq_false.mp vacant)

theorem editsAt_put (found : registry.get? name = some old) :
    EditsAt name registry (registry.put name entity) where
  names := names_put_taken (contains_iff.mp (contains_of_get? found))
  others _ differs := get?_put.trans (if_neg differs)

/-- What is put into a registry stands at its end or in its place. -/
theorem names_grow_put : registry.names <+: (registry.put name entity).names := by
  by_cases taken : name ∈ registry.names
  · exact (names_put_taken taken).symm ▸ List.prefix_rfl
  · rw [names_put_vacant taken]
    exact List.prefix_append _ _

theorem EditsAt.refl (name : String) (registry : Registry α) : EditsAt name registry registry :=
  ⟨rfl, fun _ _ => rfl⟩

end Registry

namespace Stack

/-! ### All registries of a stack -/

/-- The kinds of entities that a stack registers. -/
inductive Kind where
  | service
  | network
  | volume
  | secret
  | config
  deriving DecidableEq, Repr

/-- The entities of a kind. -/
def Kind.Entity : Kind → Type
  | service => Service
  | network => Network
  | volume => Volume
  | secret => Secret
  | config => ConfigFile

instance : (kind : Kind) → Named kind.Entity
  | .service => inferInstanceAs (Named Service)
  | .network => inferInstanceAs (Named Network)
  | .volume => inferInstanceAs (Named Volume)
  | .secret => inferInstanceAs (Named Secret)
  | .config => inferInstanceAs (Named ConfigFile)

/-- The registry of a kind. -/
def registry (stack : Stack) : (kind : Kind) → Registry kind.Entity
  | .service => stack.services
  | .network => stack.networks
  | .volume => stack.volumes
  | .secret => stack.secrets
  | .config => stack.configs

/-- The kind and the name of the entity that an operation creates. -/
def Operation.creates? : Operation → Option (Kind × String)
  | .createService name _ => some (.service, name)
  | .addService service _ => some (.service, service.name)
  | .createNetwork name _ => some (.network, name)
  | .createVolume name _ => some (.volume, name)
  | .createSecret name _ => some (.secret, name)
  | .createConfig name _ => some (.config, name)
  | _ => none

/-- The kind and the name of the entity that an operation edits. -/
def Operation.edits? : Operation → Option (Kind × String)
  | .updateService name _ => some (.service, name)
  | .updateNetwork name _ => some (.network, name)
  | .updateVolume name _ => some (.volume, name)
  | _ => none

/-- All registries but that of one kind are the same. -/
def SameBut (kind : Kind) (before after : Stack) : Prop :=
  ∀ other, other ≠ kind → after.registry other = before.registry other

/-- **What all operations do to the registries of a stack.** What is created is appended under a
free name, what is edited stays in its place, and all else is left alone; a name that is taken is
refused as a duplicate of its kind. -/
structure GrowsAtEnd (stack : Stack) : Prop where
  keyed : ∀ kind, (stack.registry kind).Keyed
  created : ∀ (operation : Operation) kind name after, operation.creates? = some (kind, name) →
    operation.edit.Accepts stack after →
    Registry.Appends name (stack.registry kind) (after.registry kind) ∧ SameBut kind stack after
  taken : ∀ (operation : Operation) kind name, operation.creates? = some (kind, name) →
    (stack.registry kind).contains name = true →
    operation.edit.apply stack = (.error (.duplicate (Named.kind kind.Entity) name), stack)
  edited : ∀ (operation : Operation) kind name after, operation.edits? = some (kind, name) →
    operation.edit.Accepts stack after →
    Registry.EditsAt name (stack.registry kind) (after.registry kind) ∧ SameBut kind stack after
  untouched : ∀ operation : Operation, operation.creates? = none → operation.edits? = none →
    ∀ kind, (operation.edit.apply stack).2.registry kind = stack.registry kind
  grown : ∀ operations kind,
    (stack.registry kind).names <+: ((stack.run operations).registry kind).names

/-! ### One entity -/

/-- The stack with an entity put into the registry of its kind. -/
def putEntity (stack : Stack) (name : String) : {kind : Kind} → kind.Entity → Stack
  | .service, service => { stack with services := stack.services.put name service }
  | .network, network => { stack with networks := stack.networks.put name network }
  | .volume, volume => { stack with volumes := stack.volumes.put name volume }
  | .secret, secret => { stack with secrets := stack.secrets.put name secret }
  | .config, config => { stack with configs := stack.configs.put name config }

/-- The registries of a stack are those of another one with an entity put into one of them. -/
def Puts (kind : Kind) (name : String) (before after : Stack) : Prop :=
  ∃ entity : kind.Entity, ∀ other,
    after.registry other = (before.putEntity name entity).registry other

section Operations

variable {stack after : Stack} {operation : Operation} {kind : Kind} {name : String}

theorem registry_putEntity (entity : kind.Entity) :
    (stack.putEntity name entity).registry kind = (stack.registry kind).put name entity := by
  cases kind <;> rfl

theorem registry_putEntity_other (entity : kind.Entity) {other : Kind} (differs : other ≠ kind) :
    (stack.putEntity name entity).registry other = stack.registry other := by
  cases kind <;> cases other <;> first | rfl | exact absurd rfl differs

theorem Puts.sameBut (puts : Puts kind name stack after) : SameBut kind stack after := by
  obtain ⟨entity, registries⟩ := puts
  exact fun other differs => (registries other).trans (registry_putEntity_other entity differs)

/-- Under a free name the entity is appended. -/
theorem Puts.appends (puts : Puts kind name stack after)
    (vacant : (stack.registry kind).contains name = false) :
    Registry.Appends name (stack.registry kind) (after.registry kind) := by
  obtain ⟨entity, registries⟩ := puts
  rw [registries, registry_putEntity]
  exact Registry.appends_put vacant

/-- Under a name that is taken the entity stands in the place of the old one. -/
theorem Puts.editsAt (puts : Puts kind name stack after) {old : kind.Entity}
    (found : (stack.registry kind).get? name = some old) :
    Registry.EditsAt name (stack.registry kind) (after.registry kind) := by
  obtain ⟨entity, registries⟩ := puts
  rw [registries, registry_putEntity]
  exact Registry.editsAt_put found

/-! ### Creating -/

theorem addService_accepts {service : Service} :
    (addService service).Accepts stack after ↔ stack.services.contains service.name = false ∧
      service.checkReferences stack.lookup = .ok () ∧
      after = { stack with services := stack.services.put service.name service } := by
  unfold addService
  rw [accepts_get_bind, accepts_check_bind, Registry.ensureVacant_eq_ok, accepts_check_bind]
  simp only [accepts_lift_bind, accepts_set, Registry.register_eq_ok]
  constructor
  · rintro ⟨vacant, resolved, _, ⟨_, rfl⟩, rfl⟩
    exact ⟨vacant, resolved, rfl⟩
  · rintro ⟨vacant, resolved, rfl⟩
    exact ⟨vacant, resolved, _, ⟨vacant, rfl⟩, rfl⟩

/-- **What is created is put under a free name.** -/
theorem created_puts (creates : operation.creates? = some (kind, name))
    (accepted : operation.edit.Accepts stack after) :
    (stack.registry kind).contains name = false ∧ Puts kind name stack after := by
  cases operation with
  | createService name spec =>
    cases creates
    obtain ⟨vacant, _, service, _, rfl⟩ := createService_accepts.mp accepted
    exact ⟨vacant, service, fun other => by cases other <;> rfl⟩
  | addService service built =>
    cases creates
    obtain ⟨vacant, _, rfl⟩ := addService_accepts.mp accepted
    exact ⟨vacant, service, fun _ => rfl⟩
  | createNetwork name spec =>
    cases creates
    obtain ⟨vacant, network, _, rfl⟩ := Shelf.networks.accepts.mp accepted
    exact ⟨vacant, network, fun _ => rfl⟩
  | createVolume name spec =>
    cases creates
    obtain ⟨vacant, volume, _, rfl⟩ := Shelf.volumes.accepts.mp accepted
    exact ⟨vacant, volume, fun _ => rfl⟩
  | createSecret name spec =>
    cases creates
    obtain ⟨vacant, secret, _, rfl⟩ := Shelf.secrets.accepts.mp accepted
    exact ⟨vacant, secret, fun _ => rfl⟩
  | createConfig name spec =>
    cases creates
    obtain ⟨vacant, config, _, rfl⟩ := Shelf.configs.accepts.mp accepted
    exact ⟨vacant, config, fun _ => rfl⟩
  | _ => cases creates

/-- An edit that first looks whether a name is free refuses a name that is taken. -/
theorem refused_taken {α : Type} [Named α] {registry : Stack → Registry α}
    {rest : Stack → Edit Stack Unit} (taken : (registry stack).contains name = true) :
    (do
      let stack ← get
      (registry stack).ensureVacant name
      rest stack : Edit Stack Unit).apply stack =
      (.error (.duplicate (Named.kind α) name), stack) := by
  have refused : (registry stack).ensureVacant name =
      .error (.duplicate (Named.kind α) name) := by
    rw [Registry.ensureVacant, if_pos taken]
  rw [Edit.apply_bind, Edit.apply_get]
  dsimp only
  rw [Edit.apply_bind, Edit.apply_lift, refused]

/-- **A name that is taken is refused** as a duplicate of its kind. -/
theorem created_taken (creates : operation.creates? = some (kind, name))
    (taken : (stack.registry kind).contains name = true) :
    operation.edit.apply stack = (.error (.duplicate (Named.kind kind.Entity) name), stack) := by
  cases operation with
  | createService name spec => cases creates; exact refused_taken taken
  | addService service built => cases creates; exact refused_taken taken
  | createNetwork name spec => cases creates; exact refused_taken taken
  | createVolume name spec => cases creates; exact refused_taken taken
  | createSecret name spec => cases creates; exact refused_taken taken
  | createConfig name spec => cases creates; exact refused_taken taken
  | _ => cases creates

/-! ### Editing -/

/-- **What is edited is put back under its name**, since no setter renames it. -/
theorem edited_puts (sound : stack.Sound) (edits : operation.edits? = some (kind, name))
    (accepted : operation.edit.Accepts stack after) :
    (∃ old, (stack.registry kind).get? name = some old) ∧ Puts kind name stack after := by
  cases operation with
  | updateService name change =>
    cases edits
    obtain ⟨service, _, edited, found, ran, _, rfl⟩ :=
      (updateService_settles name fun lookup => (change lookup).edit).of_accepted accepted
    have leads := (change stack.lookup).through.leads ran
    have same : edited.name = name :=
      (Service.leads_name leads).trans (sound.services.get? found).1
    rw [same]
    exact ⟨⟨service, found⟩, edited, fun _ => rfl⟩
  | updateNetwork name change =>
    cases edits
    obtain ⟨network, _, edited, found, ran, rfl⟩ :=
      (updateNetwork_settles name change.edit).of_accepted accepted
    have leads := change.through.leads ran
    have same : edited.name = name :=
      (Network.leads_name leads).trans (sound.networks.get? found).1
    rw [same]
    exact ⟨⟨network, found⟩, edited, fun _ => rfl⟩
  | updateVolume name change =>
    cases edits
    obtain ⟨volume, _, edited, found, ran, rfl⟩ :=
      (updateVolume_settles name change.edit).of_accepted accepted
    have leads := change.through.leads ran
    have same : edited.name = name :=
      (Volume.leads_name leads).trans (sound.volumes.get? found).1
    rw [same]
    exact ⟨⟨volume, found⟩, edited, fun _ => rfl⟩
  | _ => cases edits

/-- **Operations that name no entity leave the registries alone.** -/
theorem untouched_registry (noCreation : operation.creates? = none)
    (noEdit : operation.edits? = none) (kind : Kind) :
    (operation.edit.apply stack).2.registry kind = stack.registry kind := by
  have settles : operation.edit.Settles stack fun after =>
      ∀ kind, after.registry kind = stack.registry kind := by
    cases operation with
    | setEnv key value => exact .lift fun _ _ => .modify fun _ => rfl
    | addEnvFile path => exact .get (.lift fun _ _ => .lift fun _ _ => .set fun _ => rfl)
    | setMainService name => exact .get (.lift fun _ _ => .lift fun _ _ => .set fun _ => rfl)
    | writeManifest write => exact .of_asks (writeManifest_asks write) fun _ => rfl
    | updateService name change => cases noEdit
    | updateNetwork name change => cases noEdit
    | updateVolume name change => cases noEdit
    | _ => cases noCreation
  exact settles.left (fun _ => rfl) kind

/-! ### Runs -/

/-- What is put into a registry stands at the end or in its place. -/
theorem Puts.names_grow (puts : Puts kind name stack after) (other : Kind) :
    (stack.registry other).names <+: (after.registry other).names := by
  by_cases same : other = kind
  · subst same
    obtain ⟨entity, registries⟩ := puts
    rw [registries, registry_putEntity]
    exact Registry.names_grow_put
  · exact puts.sameBut other same ▸ List.prefix_rfl

/-- **A step puts at most one entity** into one registry. -/
theorem Step.puts {before after : Stack} (step : before.Step after) :
    (∀ kind, after.registry kind = before.registry kind) ∨
      ∃ kind name, Puts kind name before after := by
  cases step with
  | serviceAdded service =>
    exact .inr ⟨.service, _, service, fun other => by cases other <;> rfl⟩
  | serviceEdited _ _ service => exact .inr ⟨.service, _, service, fun _ => rfl⟩
  | networkAdded network => exact .inr ⟨.network, _, network, fun _ => rfl⟩
  | networkEdited _ _ network => exact .inr ⟨.network, _, network, fun _ => rfl⟩
  | volumeAdded volume => exact .inr ⟨.volume, _, volume, fun _ => rfl⟩
  | volumeEdited _ _ volume => exact .inr ⟨.volume, _, volume, fun _ => rfl⟩
  | secretAdded secret => exact .inr ⟨.secret, _, secret, fun _ => rfl⟩
  | configAdded config => exact .inr ⟨.config, _, config, fun _ => rfl⟩
  | _ => exact .inl fun _ => rfl

/-- **No step moves a name or takes it back.** -/
theorem Step.names_grow {before after : Stack} (step : before.Step after) (kind : Kind) :
    (before.registry kind).names <+: (after.registry kind).names := by
  rcases step.puts with same | ⟨_, _, puts⟩
  · exact same kind ▸ List.prefix_rfl
  · exact puts.names_grow kind

/-- **The names that were registered first are always the first names**, whether operations are
refused or not. -/
theorem run_names_grow (operations : List Operation) (kind : Kind) :
    (stack.registry kind).names <+: ((stack.run operations).registry kind).names := by
  let holds (left : Stack) : Prop := (stack.registry kind).names <+: (left.registry kind).names
  have kept (before after : Stack) (earlier : holds before) (step : before.Step after) :
      holds after := earlier.trans (step.names_grow kind)
  exact run_keeps kept operations List.prefix_rfl

theorem Sound.keyed (sound : stack.Sound) : (kind : Kind) → (stack.registry kind).Keyed
  | .service => sound.services.keyed
  | .network => sound.networks.keyed
  | .volume => sound.volumes.keyed
  | .secret => sound.secrets.keyed
  | .config => sound.configs.keyed

theorem Sound.growsAtEnd (sound : stack.Sound) : stack.GrowsAtEnd where
  keyed := sound.keyed
  created operation kind name after creates accepted := by
    obtain ⟨vacant, puts⟩ := created_puts creates accepted
    exact ⟨puts.appends vacant, puts.sameBut⟩
  taken operation kind name creates taken := created_taken creates taken
  edited operation kind name after edits accepted := by
    obtain ⟨⟨_, found⟩, puts⟩ := edited_puts sound edits accepted
    exact ⟨puts.editsAt found, puts.sameBut⟩
  untouched operation noCreation noEdit := untouched_registry noCreation noEdit
  grown := run_names_grow

end Operations

end Stack

/-! ### Templates -/

namespace Script.Template

/-- The name of the stage that an operation adds. -/
def Operation.creates? : Operation → Option String
  | .addStage name => some name
  | .insert stage _ => some stage.name
  | _ => none

/-- **What all operations do to the stages of a template.** A stage that is added is appended under
a free name, and refused as a duplicate under a name that is taken; a stage that is edited stays in
its place, even if the edit is refused halfway; a rendering leaves all of them alone. -/
structure GrowsAtEnd (template : Template) : Prop where
  keyed : template.stages.Keyed
  created : ∀ (operation : Operation) name after, operation.creates? = some name →
    operation.edit.Accepts template after →
    Registry.Appends name template.stages after.stages
  taken : ∀ (operation : Operation) name, operation.creates? = some name →
    template.stages.contains name = true →
    operation.edit.apply template = (.error (.duplicate .stage name), template)
  edited : ∀ name change, Registry.EditsAt name template.stages
    ((Operation.editStage name change).edit.apply template).2.stages
  rendered : (Operation.render.edit.apply template).2 = template
  grown : ∀ operations, template.stages.names <+: (template.run operations).stages.names

variable {template after : Template} {operation : Operation} {name : String}

theorem insert_accepts {stage : Stage} : (insert stage).Accepts template after ↔
    template.stages.contains stage.name = false ∧
      after = { template with stages := template.stages.put stage.name stage } := by
  unfold insert
  rw [accepts_get_bind]
  simp only [accepts_lift_bind, accepts_set, Registry.register_eq_ok]
  constructor
  · rintro ⟨_, ⟨vacant, rfl⟩, rfl⟩
    exact ⟨vacant, rfl⟩
  · rintro ⟨vacant, rfl⟩
    exact ⟨_, ⟨vacant, rfl⟩, rfl⟩

theorem addStage_accepts : (addStage name).Accepts template after ↔
    ∃ stage, Stage.create name = .ok stage ∧ (insert stage).Accepts template after := by
  unfold addStage
  rw [accepts_lift_bind]

/-- **A stage that is added is appended.** -/
theorem created_appends (creates : operation.creates? = some name)
    (accepted : operation.edit.Accepts template after) :
    Registry.Appends name template.stages after.stages := by
  cases operation with
  | addStage name =>
    cases creates
    obtain ⟨stage, created, inserted⟩ := addStage_accepts.mp accepted
    obtain ⟨vacant, rfl⟩ := insert_accepts.mp inserted
    rw [(Stage.create_sound created).2] at vacant ⊢
    exact Registry.appends_put vacant
  | insert stage built =>
    cases creates
    obtain ⟨vacant, rfl⟩ := insert_accepts.mp accepted
    exact Registry.appends_put vacant
  | _ => cases creates

theorem insert_taken {stage : Stage} (taken : template.stages.contains stage.name = true) :
    (insert stage).apply template = (.error (.duplicate .stage stage.name), template) := by
  have refused : template.stages.register stage = .error (.duplicate .stage stage.name) := by
    show (template.stages.ensureVacant stage.name >>= _) = _
    rw [Registry.ensureVacant, if_pos taken]
    rfl
  unfold insert
  rw [Edit.apply_bind, Edit.apply_get]
  dsimp only
  rw [Edit.apply_bind, Edit.apply_lift, refused]

/-- A name under which a stage stands is a valid one, so that a second stage of the name can be
created, but not added. -/
theorem Sound.created_taken (sound : template.Sound) (creates : operation.creates? = some name)
    (taken : template.stages.contains name = true) :
    operation.edit.apply template = (.error (.duplicate .stage name), template) := by
  cases operation with
  | addStage name =>
    cases creates
    obtain ⟨old, found⟩ := Registry.get?_of_contains taken
    obtain ⟨same, built⟩ := sound.stages.get? found
    have valid : isEntityName name = true := by
      rw [← same]
      exact built.sound.named
    obtain ⟨stage, created⟩ : ∃ stage, Stage.create name = .ok stage :=
      ⟨_, Edit.bind_eq_ok.mpr ⟨(), Validation.name_eq_ok.mpr valid, rfl⟩⟩
    have named := (Stage.create_sound created).2
    show (addStage name).apply template = _
    unfold addStage
    rw [Edit.apply_bind, Edit.apply_lift, created]
    rw [← named] at taken ⊢
    exact insert_taken taken
  | insert stage built => cases creates; exact insert_taken taken
  | _ => cases creates

/-- **A stage stays in its place**, whatever an edit does to it. -/
theorem editStage_editsAt (name : String) (change : Edit.Change Stage.Calls) :
    Registry.EditsAt name template.stages
      ((Operation.editStage name change).edit.apply template).2.stages := by
  have left : ((Operation.editStage name change).edit.apply template).2 =
      ((editStage name change.edit).apply template).2 := by
    rw [Operation.edit, Edit.apply_bind]
    rcases (editStage name change.edit).apply template with ⟨_ | _, _⟩ <;> rfl
  rw [left]
  unfold editStage
  rw [Edit.apply_bind, Edit.apply_get]
  dsimp only
  cases found : template.stages.get? name with
  | none => exact .refl name template.stages
  | some stage =>
    dsimp only
    rw [Edit.apply_bind, Edit.apply_set]
    dsimp only
    rw [Edit.apply_bind, Edit.apply_lift]
    cases (change.edit.apply stage).1 <;> exact Registry.editsAt_put found

theorem Step.names_grow (step : template.Step after) :
    template.stages.names <+: after.stages.names := by
  cases step with
  | asked => exact List.prefix_rfl
  | inserted stage => exact Registry.names_grow_put
  | edited name => exact Registry.names_grow_put

theorem run_names_grow (operations : List Operation) :
    template.stages.names <+: (template.run operations).stages.names := by
  induction operations generalizing template with
  | nil => exact List.prefix_rfl
  | cons operation rest ih => exact (operation_step operation).names_grow.trans ih

theorem Sound.growsAtEnd (sound : template.Sound) : template.GrowsAtEnd where
  keyed := sound.stages.keyed
  created _ _ _ := created_appends
  taken _ _ := sound.created_taken
  edited := editStage_editsAt
  rendered := (render_asks.bind fun _ => .pure ()) template
  grown := run_names_grow

end Script.Template

/-! ### Both -/

/-- **Registries grow by one, at the end.** In every stack and every template that is reached, every
entity stands under its own name and no name occurs twice. What is created is appended under a free
name, and refused as a duplicate under a name that is taken; what is edited stays in its place; and
all other registries are the same. So the names of every registry are the first names of it after
every further run. -/
theorem registries_grow :
    (∀ stack : Stack, stack.Reached → stack.GrowsAtEnd) ∧
      ∀ template : Script.Template, template.Reached → template.GrowsAtEnd :=
  ⟨fun _ reached => reached.sound.growsAtEnd, fun _ reached => reached.sound.growsAtEnd⟩

/-- The definition of a volume without settings. -/
def Volume.Spec.bare : Volume.Spec := ⟨none, .empty, none, .empty, none, none, false, none⟩

/-- A run that registers a volume and two services. -/
def Stack.pairRun {db web : Service} (dbCreated : Service.create "db" = .ok db)
    (webCreated : Service.create "web" = .ok web) : List Stack.Operation :=
  [.createVolume "data" .bare,
    .addService _ (Service.assembled_built dbCreated .everything [.image "redis"]),
    .addService _ (Service.assembled_built webCreated .everything [.image "nginx"])]

/-- The dependency of the first service on the second one. -/
def Stack.Operation.awaitWeb : Stack.Operation :=
  .updateService "db" fun _ => Service.Setting.sequence .everything [.dependency "web" none]

theorem registries_grow_pairRun :
    ∃ start db web, ∃ (dbCreated : Service.create "db" = .ok db)
      (webCreated : Service.create "web" = .ok web),
      Stack.create "shop" .everything = .ok start ∧
      let left := start.run (Stack.pairRun dbCreated webCreated)
      left.services.names = ["db", "web"] ∧
      (Stack.createVolume "data" .bare).apply left =
        (.error (.duplicate .volume "data"), left) ∧
      (∃ after, Stack.Operation.awaitWeb.edit.Accepts left after ∧
        after.services.names = ["db", "web"] ∧ after.services ≠ left.services ∧
        Stack.SameBut .service left after) ∧
      (∀ operations, ["db", "web"] <+: (left.run operations).services.names) ∧
      let template := Script.Template.empty.run [.addStage "build"]
      (Script.Template.addStage "build").apply template =
        (.error (.duplicate .stage "build"), template) := by
  have created : Stack.create "shop" .everything = .ok _ := rfl
  have reached : Stack.Reached _ := ⟨_, _, _, Stack.pairRun rfl rfl, created, rfl⟩
  have grows := registries_grow.1 _ reached
  refine ⟨_, _, _, rfl, rfl, created, rfl, ?taken, ?edited, ?grown, ?template⟩
  case taken => exact grows.taken (.createVolume "data" .bare) .volume "data" rfl rfl
  case edited =>
    refine ⟨_, rfl, ?_⟩
    obtain ⟨placed, others⟩ := grows.edited .awaitWeb .service "db" _ rfl rfl
    exact ⟨placed.names, by decide, others⟩
  case grown => exact fun operations => grows.grown operations .service
  case template =>
    exact (registries_grow.2 _ ⟨_, rfl⟩).taken (.addStage "build") "build" rfl rfl

end ContainerStack
