import ContainerStack.Proofs.Linking
import ContainerStack.Proofs.Refusals

/-!
**Creating the entities of a definition, one after the other.**

A definition has one map of entries for each kind of entity. Its entries are created in their order,
and every one of them is registered as what it makes on its own.

* `Registry.MadeOf`: the registry holds what the entries make, in their order.
* `Shelf`: one kind of entity, with its registry in the stack and with how an entry is created.
* `Shelf.fill_accepts`: the entries of a definition fill an empty shelf.
* `Stack.createServices_accepts`: the same for services, which may be marked as the main one and may
  refer to services that were created before them.
-/

namespace ContainerStack

/-! ### Registries and the entries that they are made of -/

namespace OrderedMap

variable {α : Type}

theorem insertEntry_vacant {key : String} {value : α} {entries : List (String × α)}
    (vacant : key ∉ entries.map Prod.fst) :
    insertEntry key value entries = entries ++ [(key, value)] := by
  induction entries with
  | nil => rfl
  | cons entry rest ih =>
    obtain ⟨name, old⟩ := entry
    rw [List.map_cons, List.mem_cons, not_or] at vacant
    rw [insertEntry, if_neg (Ne.symm vacant.1), ih vacant.2]
    rfl

theorem insertEntry_taken {key : String} {value old : α} {before after : List (String × α)}
    (first : key ∉ before.map Prod.fst) :
    insertEntry key value (before ++ (key, old) :: after) = before ++ (key, value) :: after := by
  induction before with
  | nil => simp [insertEntry]
  | cons entry rest ih =>
    obtain ⟨name, other⟩ := entry
    rw [List.map_cons, List.mem_cons, not_or] at first
    rw [List.cons_append, insertEntry, if_neg (Ne.symm first.1), ih first.2]
    rfl

end OrderedMap

/-- What is kept under a name is what an entry of that name makes. -/
def Makes {α Spec : Type} (make : String → Spec → Except Fault α) (entry : String × Spec)
    (kept : String × α) : Prop := kept.1 = entry.1 ∧ make entry.1 entry.2 = .ok kept.2

/-- The registry holds what the entries make, each under its name and in their order. -/
def Registry.MadeOf {α Spec : Type} (make : String → Spec → Except Fault α)
    (entries : OrderedMap Spec) (registry : Registry α) : Prop :=
  List.Forall₂ (Makes make) entries.entries registry.entries.entries

namespace Registry

variable {α : Type} {registry : Registry α} {name : String} {entity : α}

theorem eq_of_entries {first second : Registry α}
    (same : first.entries.entries = second.entries.entries) : first = second := by
  obtain ⟨entries⟩ := first
  obtain ⟨others⟩ := second
  exact congrArg Registry.mk (OrderedMap.ext same)

theorem contains_eq_false : registry.contains name = false ↔ name ∉ registry.names := by
  rw [← contains_iff, Bool.not_eq_true]

theorem entries_put_vacant (vacant : name ∉ registry.names) :
    (registry.put name entity).entries.entries = registry.entries.entries ++ [(name, entity)] :=
  OrderedMap.insertEntry_vacant vacant

theorem names_put_vacant (vacant : name ∉ registry.names) :
    (registry.put name entity).names = registry.names ++ [name] := by
  show (registry.put name entity).entries.entries.map Prod.fst = _
  rw [entries_put_vacant vacant, List.map_append]
  rfl

theorem entries_put_taken {old : α} {before after : List (String × α)}
    (there : registry.entries.entries = before ++ (name, old) :: after) :
    (registry.put name entity).entries.entries = before ++ (name, entity) :: after := by
  have distinct := registry.entries.nodup_keys
  rw [there, List.map_append, List.map_cons] at distinct
  have first : name ∉ before.map Prod.fst := fun earlier =>
    (List.nodup_append.mp distinct).2.2 name earlier name List.mem_cons_self rfl
  show OrderedMap.insertEntry name entity registry.entries.entries = _
  rw [there, OrderedMap.insertEntry_taken first]

theorem names_put_taken (taken : name ∈ registry.names) :
    (registry.put name entity).names = registry.names :=
  (OrderedMap.keys_insert registry.entries name entity).trans (if_pos taken)

theorem contains_of_get? (found : registry.get? name = some entity) :
    registry.contains name = true :=
  contains_iff.mpr (List.mem_map.mpr ⟨_, get?_eq_some.mp found, rfl⟩)

/-- An entity is put in the place of the one of its name. -/
theorem toList_put {old : α} (found : registry.get? name = some old) : ∃ first last,
    registry.toList = first ++ old :: last ∧
      ∀ entity, (registry.put name entity).toList = first ++ entity :: last := by
  obtain ⟨first, last, there⟩ := List.append_of_mem (get?_eq_some.mp found)
  refine ⟨first.map Prod.snd, last.map Prod.snd, ?_, fun entity => ?_⟩
  · show registry.entries.entries.map Prod.snd = _
    rw [there, List.map_append]
    rfl
  · show (registry.put name entity).entries.entries.map Prod.snd = _
    rw [entries_put_taken there, List.map_append]
    rfl

/-- Putting an entity where it stands changes nothing. -/
theorem put_found (found : registry.get? name = some entity) :
    registry.put name entity = registry := by
  obtain ⟨before, after, there⟩ := List.append_of_mem (get?_eq_some.mp found)
  exact eq_of_entries ((entries_put_taken there).trans there.symm)

/-- What was put where an entity stands is gone when another one is put there. -/
theorem put_put {first second : α} (found : registry.get? name = some entity) :
    (registry.put name first).put name second = registry.put name second := by
  obtain ⟨before, after, there⟩ := List.append_of_mem (get?_eq_some.mp found)
  exact eq_of_entries
    ((entries_put_taken (entries_put_taken there)).trans (entries_put_taken there).symm)

end Registry

/-- What stands under the names of the entries has their names in their order. -/
theorem names_of_forall₂ {α Spec : Type} {relation : String × Spec → String × α → Prop}
    {entries : List (String × Spec)} {kept : List (String × α)}
    (same : ∀ entry one, relation entry one → one.1 = entry.1)
    (related : List.Forall₂ relation entries kept) :
    kept.map Prod.fst = entries.map Prod.fst := by
  induction related with
  | nil => rfl
  | cons here _ ih => rw [List.map_cons, List.map_cons, same _ _ here, ih]

theorem Registry.MadeOf.names_eq {α Spec : Type} {make : String → Spec → Except Fault α}
    {entries : OrderedMap Spec} {registry : Registry α} (made : registry.MadeOf make entries) :
    registry.names = entries.keys :=
  names_of_forall₂ (fun _ _ makes => makes.1) made

/-- The registry has exactly the names of the entries. -/
theorem Registry.MadeOf.contains_eq {α Spec : Type} {make : String → Spec → Except Fault α}
    {entries : OrderedMap Spec} {registry : Registry α} (made : registry.MadeOf make entries) :
    registry.contains = entries.contains := by
  funext name
  rw [Bool.eq_iff_iff, Registry.contains_iff, OrderedMap.contains_eq_true, made.names_eq]

/-! ### Shelves -/

/-- One kind of entity: its registry in a stack, and how an entry of a definition is created there.
What an entry makes depends on the files that are there, and on nothing else in the stack. -/
structure Shelf (α Spec : Type) where
  registry : Stack → Registry α
  withRegistry : Stack → Registry α → Stack
  create : String → Spec → Edit Stack Unit
  make : EntityLookup → String → Spec → Except Fault α
  registry_with : ∀ stack filled, registry (withRegistry stack filled) = filled
  with_with : ∀ stack first second,
    withRegistry (withRegistry stack first) second = withRegistry stack second
  with_registry : ∀ stack, withRegistry stack (registry stack) = stack
  make_with : ∀ stack filled, make (withRegistry stack filled).lookup = make stack.lookup
  accepts : ∀ {before after name spec}, (create name spec).Accepts before after ↔
    (registry before).contains name = false ∧ ∃ entity, make before.lookup name spec = .ok entity ∧
      after = withRegistry before ((registry before).put name entity)

namespace Shelf

open Edit

variable {α Spec : Type} (shelf : Shelf α Spec)

/-- **Entries are created in their order**: each makes what it makes on its own, and all of it is
appended to what is there. -/
theorem createAll_accepts {entries : List (String × Spec)} {before after : Stack}
    (distinct : ((shelf.registry before).names ++ entries.map Prod.fst).Nodup) :
    (entries.forM fun entry => shelf.create entry.1 entry.2).Accepts before after ↔
      ∃ made filled, List.Forall₂ (Makes (shelf.make before.lookup)) entries made ∧
        filled.entries.entries = (shelf.registry before).entries.entries ++ made ∧
        after = shelf.withRegistry before filled := by
  induction entries generalizing before with
  | nil =>
    refine accepts_pure.trans ?_
    constructor
    · rintro rfl
      exact ⟨[], shelf.registry after, .nil, (List.append_nil _).symm,
        (shelf.with_registry _).symm⟩
    · rintro ⟨_, filled, _ | _, same, rfl⟩
      rw [List.append_nil] at same
      rw [Registry.eq_of_entries same, shelf.with_registry]
  | cons entry rest ih =>
    obtain ⟨name, spec⟩ := entry
    rw [List.map_cons, ← List.singleton_append, ← List.append_assoc] at distinct
    have vacant : name ∉ (shelf.registry before).names := by
      have apart := (List.nodup_append.mp (List.nodup_append.mp distinct).1).2.2
      exact fun taken => apart _ taken _ List.mem_cons_self rfl
    have entered (entity : α) : ((shelf.registry (shelf.withRegistry before
        ((shelf.registry before).put name entity))).names ++ rest.map Prod.fst).Nodup := by
      rwa [shelf.registry_with, Registry.names_put_vacant vacant]
    rw [accepts_forM_cons]
    simp only [shelf.accepts]
    constructor
    · rintro ⟨_, ⟨_, entity, makes, rfl⟩, later⟩
      obtain ⟨made, filled, others, same, rfl⟩ := (ih (entered entity)).mp later
      rw [shelf.make_with] at others
      rw [shelf.registry_with, Registry.entries_put_vacant vacant, List.append_assoc] at same
      exact ⟨_, filled, .cons ⟨rfl, makes⟩ others, same, shelf.with_with _ _ _⟩
    · rintro ⟨_, filled, all, same, rfl⟩
      obtain ⟨⟨_, entity⟩, made, ⟨rfl, makes⟩, others, rfl⟩ := List.forall₂_cons_left_iff.mp all
      refine ⟨_, ⟨Registry.contains_eq_false.mpr vacant, entity, makes, rfl⟩,
        (ih (entered entity)).mpr ⟨made, filled, ?_, ?_, (shelf.with_with _ _ _).symm⟩⟩
      · rwa [shelf.make_with]
      · rw [shelf.registry_with, Registry.entries_put_vacant vacant, List.append_assoc]
        exact same

/-- **The entries of a definition fill an empty shelf.** -/
theorem fill_accepts {entries : OrderedMap Spec} {before after : Stack}
    (bare : shelf.registry before = .empty) :
    (entries.toList.forM fun entry => shelf.create entry.1 entry.2).Accepts before after ↔
      ∃ filled : Registry α, filled.MadeOf (shelf.make before.lookup) entries ∧
        after = shelf.withRegistry before filled := by
  have distinct : ((shelf.registry before).names ++ entries.toList.map Prod.fst).Nodup := by
    rw [bare]
    exact entries.nodup_keys
  rw [shelf.createAll_accepts distinct, bare]
  constructor
  · rintro ⟨made, filled, makes, same, left⟩
    refine ⟨filled, ?_, left⟩
    rw [Registry.MadeOf, same]
    exact makes
  · rintro ⟨filled, makes, left⟩
    exact ⟨filled.entries.entries, filled, makes, rfl, left⟩

/-- How every kind but services is created: under a free name, and with nothing else changed. -/
theorem created_accepts [Named α] {registry : Stack → Registry α}
    {withRegistry : Stack → Registry α → Stack} {make : Stack → Except Fault α} {name : String}
    (named : ∀ stack entity, make stack = .ok entity → Named.name entity = name)
    {before after : Stack} :
    (do
      let stack ← get
      (registry stack).ensureVacant name
      let entity ← make stack
      let filled ← (registry stack).register entity
      set (withRegistry stack filled) : Edit Stack Unit).Accepts before after ↔
      (registry before).contains name = false ∧ ∃ entity, make before = .ok entity ∧
        after = withRegistry before ((registry before).put name entity) := by
  rw [accepts_get_bind, accepts_check_bind, Registry.ensureVacant_eq_ok]
  simp only [accepts_lift_bind, accepts_set, Registry.register_eq_ok]
  constructor
  · rintro ⟨free, entity, makes, _, ⟨_, rfl⟩, rfl⟩
    exact ⟨free, entity, makes, by rw [named before entity makes]⟩
  · rintro ⟨free, entity, makes, rfl⟩
    rw [← named before entity makes] at free ⊢
    exact ⟨free, entity, makes, _, ⟨free, rfl⟩, rfl⟩

/-- The networks of a stack. -/
def networks : Shelf Network Network.Spec where
  registry := Stack.networks
  withRegistry stack filled := { stack with networks := filled }
  create := Stack.createNetwork
  make _ := Network.ofSpec
  registry_with _ _ := rfl
  with_with _ _ _ := rfl
  with_registry _ := rfl
  make_with _ _ := rfl
  accepts := created_accepts fun _ _ made => (Network.ofSpec_eq_ok made).1

/-- The volumes of a stack. -/
def volumes : Shelf Volume Volume.Spec where
  registry := Stack.volumes
  withRegistry stack filled := { stack with volumes := filled }
  create := Stack.createVolume
  make _ := Volume.ofSpec
  registry_with _ _ := rfl
  with_with _ _ _ := rfl
  with_registry _ := rfl
  make_with _ _ := rfl
  accepts := created_accepts fun _ _ made => (Volume.ofSpec_eq_ok made).1

/-- The secrets of a stack. -/
def secrets : Shelf Secret Secret.Spec where
  registry := Stack.secrets
  withRegistry stack filled := { stack with secrets := filled }
  create := Stack.createSecret
  make lookup name spec := Secret.ofSpec name spec lookup
  registry_with _ _ := rfl
  with_with _ _ _ := rfl
  with_registry _ := rfl
  make_with _ _ := rfl
  accepts := created_accepts fun _ _ made => (Secret.ofSpec_eq_ok made).1

/-- The configs of a stack. -/
def configs : Shelf ConfigFile ConfigFile.Spec where
  registry := Stack.configs
  withRegistry stack filled := { stack with configs := filled }
  create := Stack.createConfig
  make lookup name spec := ConfigFile.ofSpec name spec lookup
  registry_with _ _ := rfl
  with_with _ _ _ := rfl
  with_registry _ := rfl
  make_with _ _ := rfl
  accepts := created_accepts fun _ _ made => (ConfigFile.ofSpec_eq_ok made).1

end Shelf

/-! ### Services -/

namespace Stack

open Edit

/-- Registers a service under a name, as the main one if it asks to be. -/
def enter (stack : Stack) (name : String) (isMain : Bool) (service : Service) : Stack :=
  { stack with
    services := stack.services.put name service
    mainService := if isMain then some name else stack.mainService }

theorem createService_accepts {name : String} {spec : Service.Spec} {before after : Stack} :
    (createService name spec).Accepts before after ↔ before.services.contains name = false ∧
      (spec.isMain = true → before.ensureMainVacant name = .ok ()) ∧
      ∃ service, Service.ofSpec name spec before.lookup = .ok service ∧
        after = before.enter name spec.isMain service := by
  have entered (isMain : Bool) (free : before.services.contains name = false) :
      (∃ service, Service.ofSpec name spec before.lookup = .ok service ∧
        ∃ services, before.services.register service = .ok services ∧
          after = { before with
            services := services
            mainService := if isMain then some name else before.mainService }) ↔
        ∃ service, Service.ofSpec name spec before.lookup = .ok service ∧
          after = before.enter name isMain service := by
    simp only [Registry.register_eq_ok]
    constructor
    · rintro ⟨service, made, _, ⟨_, rfl⟩, rfl⟩
      obtain ⟨rfl, _⟩ := Service.ofSpec_eq_ok made
      exact ⟨service, made, rfl⟩
    · rintro ⟨service, made, rfl⟩
      obtain ⟨rfl, _⟩ := Service.ofSpec_eq_ok made
      exact ⟨service, made, _, ⟨free, rfl⟩, rfl⟩
  unfold createService
  rw [accepts_get_bind, accepts_check_bind, Registry.ensureVacant_eq_ok]
  refine and_congr_right fun free => ?_
  cases isMain : spec.isMain with
  | true =>
    rw [if_pos rfl, accepts_check_bind]
    simp only [if_true, accepts_lift_bind, accepts_bind, accepts_modify, exists_eq_left,
      forall_true_left]
    exact and_congr_right fun _ => entered true free
  | false =>
    simp only [Bool.false_eq_true, if_false, accepts_lift_bind, accepts_modify, false_imp_iff,
      true_and]
    exact entered false free

/-- The names of the entries that ask to be the main service. -/
def mains (entries : List (String × Service.Spec)) : List String :=
  (entries.filter fun entry => entry.2.isMain).map Prod.fst

theorem mains_cons (name : String) (spec : Service.Spec) (rest : List (String × Service.Spec)) :
    mains ((name, spec) :: rest) = (if spec.isMain then [name] else []) ++ mains rest := by
  unfold mains
  cases isMain : spec.isMain <;> simp [isMain]

/-- Every entry refers only to services that are there or that an entry before it declares. -/
def RefersBack : List String → List (String × Service.Spec) → Prop
  | _, [] => True
  | earlier, (name, spec) :: rest =>
    (∀ other ∈ spec.referredServices, other ∈ earlier) ∧ RefersBack (earlier ++ [name]) rest

instance decidableRefersBack (earlier : List String) (entries : List (String × Service.Spec)) :
    Decidable (RefersBack earlier entries) :=
  match entries with
  | [] => isTrue trivial
  | (name, _) :: rest =>
    have := decidableRefersBack (earlier ++ [name]) rest
    instDecidableAnd

/-- A stack is ready for entries of services that are made under a lookup: beside the services that
are registered so far it has what the lookup has, and every entry refers back. -/
structure Ready (lookup : EntityLookup) (entries : List (String × Service.Spec))
    (stack : Stack) : Prop where
  beside : stack.lookup = { lookup with hasService := stack.services.contains }
  distinct : (stack.services.names ++ entries.map Prod.fst).Nodup
  there : ∀ name ∈ stack.services.names, lookup.hasService name = true
  declared : ∀ entry ∈ entries, lookup.hasService entry.1 = true
  registered : stack.MainRegistered
  back : RefersBack stack.services.names entries

namespace Ready

variable {lookup : EntityLookup} {name : String} {spec : Service.Spec}
  {rest : List (String × Service.Spec)} {stack : Stack}

theorem vacant (ready : stack.Ready lookup ((name, spec) :: rest)) :
    name ∉ stack.services.names := by
  intro taken
  exact (List.nodup_append.mp ready.distinct).2.2 name taken name List.mem_cons_self rfl

/-- An entry makes what it makes when all services are there. -/
theorem makes (ready : stack.Ready lookup ((name, spec) :: rest)) :
    Service.ofSpec name spec stack.lookup = Service.ofSpec name spec lookup := by
  rw [ready.beside]
  refine Service.ofSpec_agree fun other referred => ?_
  have known := ready.back.1 other referred
  rw [Registry.contains_iff.mpr known, ready.there other known]

/-- **The stack with the service of the first entry is ready for the others.** -/
theorem enter (ready : stack.Ready lookup ((name, spec) :: rest)) (isMain : Bool)
    (service : Service) : (stack.enter name isMain service).Ready lookup rest := by
  have names : (stack.enter name isMain service).services.names = stack.services.names ++ [name] :=
    Registry.names_put_vacant ready.vacant
  refine ⟨?beside, ?distinct, ?there, ?declared, ?registered, ?back⟩
  case beside =>
    have same : (stack.enter name isMain service).lookup = { stack.lookup with
      hasService := (stack.enter name isMain service).services.contains } := rfl
    rw [same, ready.beside]
  case distinct =>
    rw [names, List.append_assoc]
    exact ready.distinct
  case there =>
    intro other member
    rw [names, List.mem_append, List.mem_singleton] at member
    rcases member with before | rfl
    · exact ready.there other before
    · exact ready.declared _ List.mem_cons_self
  case declared => exact fun entry member => ready.declared entry (List.mem_cons_of_mem _ member)
  case registered =>
    intro main same
    cases isMain with
    | true =>
      cases same
      exact Registry.contains_put.mpr (.inl rfl)
    | false => exact Registry.contains_put.mpr (.inr (ready.registered main same))
  case back =>
    rw [names]
    exact ready.back.2

/-- A service that asks to be the main one is refused where there is one, and so are all later ones
that ask. -/
theorem main_iff (ready : stack.Ready lookup ((name, spec) :: rest)) {isMain : Bool}
    {later : List String} {main : Option String} :
    ((isMain = true → stack.ensureMainVacant name = .ok ()) ∧
        (if isMain then some name else stack.mainService).toList ++ later = main.toList) ↔
      stack.mainService.toList ++ ((if isMain then [name] else []) ++ later) = main.toList := by
  cases isMain with
  | false => simp
  | true =>
    cases found : stack.mainService with
    | none => simp [ensureMainVacant, found]
    | some current =>
      have differs : current ≠ name := by
        rintro rfl
        exact ready.vacant (Registry.contains_iff.mp (ready.registered current found))
      have refused : stack.ensureMainVacant name ≠ .ok () := by
        simp [ensureMainVacant, found, Validation.ensure_eq_ok, differs]
      have second : ¬ [current] ++ ([name] ++ later) = main.toList := by
        cases main <;> simp
      simp only [forall_true_left, refused, false_and, if_true, Option.toList_some, second]

end Ready

/-- **Services are created in their order**: each makes what it makes when all names that it refers
to are there, and at most one of them asks to be the main one. -/
theorem createServices_accepts {lookup : EntityLookup} {entries : List (String × Service.Spec)}
    {before after : Stack} (ready : before.Ready lookup entries) :
    (entries.forM fun entry => createService entry.1 entry.2).Accepts before after ↔
      ∃ made services main,
        List.Forall₂ (Makes fun name spec => Service.ofSpec name spec lookup) entries made ∧
        services.entries.entries = before.services.entries.entries ++ made ∧
        before.mainService.toList ++ mains entries = main.toList ∧
        after = { before with services := services, mainService := main } := by
  -- Every creation leaves the stack ready for the rest of the entries.
  induction entries generalizing before with
  | nil =>
    refine accepts_pure.trans ?_
    constructor
    · rintro rfl
      exact ⟨[], after.services, after.mainService, .nil, (List.append_nil _).symm,
        List.append_nil _, rfl⟩
    · rintro ⟨_, services, main, _ | _, same, sameMain, rfl⟩
      have mainKept : before.mainService = main := by
        cases first : before.mainService <;> cases main <;> simp_all [mains]
      rw [List.append_nil] at same
      rw [Registry.eq_of_entries same, ← mainKept]
  | cons entry rest ih =>
    obtain ⟨name, spec⟩ := entry
    have entries (service : Service) :
        (before.enter name spec.isMain service).services.entries.entries =
          before.services.entries.entries ++ [(name, service)] :=
      Registry.entries_put_vacant ready.vacant
    rw [accepts_forM_cons, mains_cons]
    simp only [createService_accepts, ready.makes]
    constructor
    · rintro ⟨_, ⟨_, vacant, service, makes, rfl⟩, later⟩
      obtain ⟨made, services, main, others, same, sameMain, rfl⟩ :=
        (ih (ready.enter spec.isMain service)).mp later
      rw [entries, List.append_assoc] at same
      exact ⟨_, services, main, .cons ⟨rfl, makes⟩ others, same,
        ready.main_iff.mp ⟨vacant, sameMain⟩, rfl⟩
    · rintro ⟨_, services, main, all, same, sameMain, rfl⟩
      obtain ⟨⟨_, service⟩, made, ⟨rfl, makes⟩, others, rfl⟩ := List.forall₂_cons_left_iff.mp all
      obtain ⟨vacant, sameMain⟩ := ready.main_iff.mpr sameMain
      refine ⟨_, ⟨Registry.contains_eq_false.mpr ready.vacant, vacant, service, makes, rfl⟩,
        (ih (ready.enter spec.isMain service)).mpr
          ⟨made, services, main, others, ?_, sameMain, rfl⟩⟩
      rw [entries, List.append_assoc]
      exact same

end Stack

end ContainerStack
