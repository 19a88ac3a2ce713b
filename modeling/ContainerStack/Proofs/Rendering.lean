import ContainerStack.Proofs.ManifestReading

/-!
**Which stacks are rendered.**

A part of the manifest can stand in the way in three places: there may be no service, a service may
have neither image nor build, and a mount may name a volume that is not there. The last never
happens in a stack that is reached, so what is left can be told from the services alone.

* `Sound.mountSteps_ok`: the volumes of every mount are found.
* `Manifest.steps_noServices`, `Manifest.steps_sourceless`, `Manifest.steps_ok`: the three ends.
* `manifest_renders_exactly`: which of them a rendering comes to.
-/

namespace ContainerStack

namespace Manifest

variable {stack : Stack} {service : Service}

theorem mountLine_ok (sound : stack.Sound) (registered : service ∈ stack.services.toList)
    {mount : Mount} (mounted : mount ∈ service.mounts) :
    ∃ line, mountLine stack service mount = .ok line := by
  cases mount with
  | anonymous path => exact ⟨_, rfl⟩
  | bind hostPath path mode => exact ⟨_, rfl⟩
  | named name path mode =>
    cases mode with
    | some own => exact ⟨_, rfl⟩
    | none =>
      have there := (sound.resolves registered).volumes name path none mounted
      obtain ⟨volume, found⟩ := Registry.get?_of_contains there
      rw [mountLine, found]
      exact ⟨_, rfl⟩

/-- **Every volume that a service mounts is found.** -/
theorem mountSteps_ok (sound : stack.Sound) (registered : service ∈ stack.services.toList) :
    ∃ mounts, mountSteps stack service = .ok mounts := by
  obtain ⟨lines, written⟩ := Edit.exists_mapM_eq_ok fun mount mounted =>
    mountLine_ok sound registered mounted
  exact ⟨_, Edit.bind_eq_ok.mpr ⟨lines, written, rfl⟩⟩

theorem serviceSteps_ok (sound : stack.Sound) (registered : service ∈ stack.services.toList)
    (sourced : service.source.isSome = true) : ∃ step, serviceSteps stack service = .ok step := by
  have source : ∃ steps, sourceSteps service = .ok steps := by
    obtain ⟨given, same⟩ := Option.isSome_iff_exists.mp sourced
    rw [sourceSteps, same]
    cases given with
    | image image => exact ⟨_, rfl⟩
    | build build => exact ⟨_, rfl⟩
  obtain ⟨source, made⟩ := source
  obtain ⟨mounts, mounted⟩ := mountSteps_ok sound registered
  exact ⟨_, Edit.bind_eq_ok.mpr ⟨source, made, Edit.bind_eq_ok.mpr ⟨mounts, mounted, rfl⟩⟩⟩

theorem serviceSteps_sourceless (stack : Stack) (sourceless : service.source = none) :
    serviceSteps stack service = .error (.missing service.owner "image or build") := by
  rw [serviceSteps, sourceSteps, sourceless]
  rfl

/-! ### The three ends -/

theorem steps_noServices (empty : stack.services.isEmpty = true) :
    steps stack = .error (.obstructed (.noServices stack.name)) := by
  rw [steps, if_pos empty]

/-- **The first service without a source** is the one that is named. -/
theorem steps_sourceless (sound : stack.Sound) {before after : List Service}
    (order : stack.renderOrder = before ++ service :: after)
    (sourced : ∀ other ∈ before, other.source.isSome = true) (sourceless : service.source = none) :
    steps stack = .error (.missing service.owner "image or build") := by
  have nonempty : ¬ stack.services.isEmpty = true := by
    rw [← sound.renderOrder_eq_nil, order]
    exact List.append_ne_nil_of_right_ne_nil before (List.cons_ne_nil service after)
  have accepted : ∀ other ∈ before, ∃ step, serviceSteps stack other = .ok step := by
    intro other member
    have registered : other ∈ stack.services.toList := by
      rw [← sound.mem_renderOrder, order]
      exact List.mem_append_left _ member
    exact serviceSteps_ok sound registered (sourced other member)
  rw [steps, if_neg nonempty, order,
    Edit.mapM_eq_error accepted (serviceSteps_sourceless stack sourceless)]
  rfl

theorem steps_ok (sound : stack.Sound) (nonempty : stack.services.isEmpty = false)
    (sourced : ∀ other ∈ stack.services.toList, other.source.isSome = true) :
    ∃ written, steps stack = .ok written := by
  have accepted : ∀ other ∈ stack.renderOrder, ∃ step, serviceSteps stack other = .ok step := by
    intro other member
    have registered := sound.mem_renderOrder.mp member
    exact serviceSteps_ok sound registered (sourced other registered)
  obtain ⟨services, made⟩ := Edit.exists_mapM_eq_ok accepted
  rw [steps, if_neg (by simp [nonempty])]
  exact ⟨_, Edit.bind_eq_ok.mpr ⟨services, made, rfl⟩⟩

/-- There is a first service without a source, or there is none at all. -/
theorem sourceless_or_sourced (sound : stack.Sound) :
    (∃ before service after, stack.renderOrder = before ++ service :: after ∧
      (∀ other ∈ before, other.source.isSome = true) ∧ service.source = none) ∨
    ∀ other ∈ stack.services.toList, other.source.isSome = true := by
  cases first : stack.renderOrder.find? fun service => service.source.isNone with
  | some service =>
    obtain ⟨sourceless, before, after, order, sourced⟩ := List.find?_eq_some_iff_append.mp first
    refine .inl ⟨before, service, after, order, fun other member => ?_, by simpa using sourceless⟩
    simpa using sourced other member
  | none =>
    refine .inr fun other registered => ?_
    have sourced := List.find?_eq_none.mp first other (sound.mem_renderOrder.mpr registered)
    simpa [Option.isSome_iff_ne_none] using sourced

theorem text_of_error {fault : Fault} (stands : steps stack = .error fault) :
    text stack = .error fault := by
  rw [text, stands]
  rfl

theorem text_ok (sound : stack.Sound) (nonempty : stack.services.isEmpty = false)
    (sourced : ∀ other ∈ stack.services.toList, other.source.isSome = true) :
    ∃ manifest, text stack = .ok manifest := by
  obtain ⟨written, made⟩ := steps_ok sound nonempty sourced
  obtain ⟨manifest, renders, _⟩ := read?_render sound made
  exact ⟨manifest, Edit.bind_eq_ok.mpr ⟨written, made, renders⟩⟩

/-- **The services alone decide what stands in the way.** -/
theorem text_error_of_same {left : Stack} (sound : stack.Sound) (soundLeft : left.Sound)
    (services : left.services = stack.services) (main : left.mainService = stack.mainService)
    (name : left.name = stack.name) {fault : Fault} (refused : text stack = .error fault) :
    text left = .error fault := by
  have order : left.renderOrder = stack.renderOrder := by
    rw [Stack.renderOrder, Stack.renderOrder, services, main]
  cases empty : stack.services.isEmpty with
  | true =>
    have emptyLeft : left.services.isEmpty = true := by rw [services, empty]
    rw [text_of_error (steps_noServices empty), ← name] at refused
    cases refused
    exact text_of_error (steps_noServices emptyLeft)
  | false =>
    rcases sourceless_or_sourced sound with
      ⟨before, service, after, here, sourced, sourceless⟩ | sourced
    · rw [text_of_error (steps_sourceless sound here sourced sourceless)] at refused
      cases refused
      exact text_of_error (steps_sourceless soundLeft (order.trans here) sourced sourceless)
    · obtain ⟨_, rendered⟩ := text_ok sound empty sourced
      rw [rendered] at refused
      cases refused

/-- **A manifest, or one of two faults.** -/
theorem text_cases (sound : stack.Sound) :
    text stack = .error (.obstructed (.noServices stack.name)) ∨
    (∃ service ∈ stack.services.toList, service.source = none ∧
      text stack = .error (.missing service.owner "image or build")) ∨
    stack.services.isEmpty = false ∧
      (∀ service ∈ stack.services.toList, service.source.isSome = true) ∧
      ∃ manifest, text stack = .ok manifest := by
  cases empty : stack.services.isEmpty with
  | true => exact .inl (text_of_error (steps_noServices empty))
  | false =>
    rcases sourceless_or_sourced sound with
      ⟨before, service, after, order, sourced, sourceless⟩ | sourced
    · have registered : service ∈ stack.services.toList := by
        rw [← sound.mem_renderOrder, order]
        exact List.mem_append_right _ List.mem_cons_self
      have refused := text_of_error (steps_sourceless sound order sourced sourceless)
      exact .inr (.inl ⟨service, registered, sourceless, refused⟩)
    · exact .inr (.inr ⟨rfl, sourced, text_ok sound empty sourced⟩)

end Manifest

/-- **Exactly when a manifest is rendered.** In every stack that is reached: without services the
rendering is refused; otherwise it is refused for the first service, in the order of rendering, that
has neither image nor build; otherwise there is a manifest. A volume that is not there is never in
the way. -/
theorem manifest_renders_exactly {stack : Stack} (reached : stack.Reached) :
    let answer := (Stack.renderManifest.apply stack).1
    (stack.services.isEmpty = true → answer = .error (.obstructed (.noServices stack.name))) ∧
    (∀ before service after, stack.renderOrder = before ++ service :: after →
      (∀ other ∈ before, other.source.isSome = true) → service.source = none →
        answer = .error (.missing service.owner "image or build")) ∧
    ((∃ text, answer = .ok text) ↔ stack.services.isEmpty = false ∧
      ∀ service ∈ stack.services.toList, service.source.isSome = true) ∧
    (∀ service ∈ stack.services.toList, ∃ mounts, Manifest.mountSteps stack service = .ok mounts) ∧
    ∀ owner name, answer ≠ .error (.dangling owner .volume name) := by
  have sound := reached.sound
  have answer : (Stack.renderManifest.apply stack).1 = Manifest.text stack := by
    rw [Stack.renderManifest_apply, if_neg (by rw [sound.idle]; nofun)]
  rw [answer]
  refine ⟨?empty, ?sourceless, ?rendered, ?mounts, ?volumes⟩
  case empty => exact fun empty => Manifest.text_of_error (Manifest.steps_noServices empty)
  case sourceless =>
    exact fun _ _ _ order sourced sourceless =>
      Manifest.text_of_error (Manifest.steps_sourceless sound order sourced sourceless)
  case rendered =>
    constructor
    · rintro ⟨text, rendered⟩
      rcases Manifest.text_cases sound with empty | ⟨_, _, _, refused⟩ | ⟨nonempty, sourced, _⟩
      · rw [empty] at rendered
        cases rendered
      · rw [refused] at rendered
        cases rendered
      · exact ⟨nonempty, sourced⟩
    · exact fun ⟨nonempty, sourced⟩ => Manifest.text_ok sound nonempty sourced
  case mounts => exact fun _ registered => Manifest.mountSteps_ok sound registered
  case volumes =>
    intro owner name dangling
    rcases Manifest.text_cases sound with empty | ⟨_, _, _, refused⟩ | ⟨_, _, _, rendered⟩
    · rw [empty] at dangling
      cases dangling
    · rw [refused] at dangling
      cases dangling
    · rw [rendered] at dangling
      cases dangling

/-- A run that ends with two services that have no source. The main one is written first, and a
service that is complete stands between them. -/
def Stack.unfinishedRun {first second main : Service}
    (firstCreated : Service.create "first" = .ok first)
    (secondCreated : Service.create "second" = .ok second)
    (mainCreated : Service.create "main" = .ok main) : List Stack.Operation :=
  [.addService _ (Service.assembled_built firstCreated .everything [.image "nginx"]),
    .addService _ (Service.assembled_built secondCreated .everything []),
    .addService _ (Service.assembled_built mainCreated .everything [.user "1000"]),
    .setMainService "main"]

theorem manifest_renders_exactly_unfinishedRun :
    ∃ start first second main, ∃ (firstCreated : Service.create "first" = .ok first)
      (secondCreated : Service.create "second" = .ok second)
      (mainCreated : Service.create "main" = .ok main),
      Stack.create "shop" .everything = .ok start ∧
      let left := start.run (Stack.unfinishedRun firstCreated secondCreated mainCreated)
      left.renderOrder.map Service.name = ["main", "first", "second"] ∧
      (Stack.renderManifest.apply left).1 =
        .error (.missing "service 'main'" "image or build") := by
  have created : Stack.create "shop" .everything = .ok _ := rfl
  have reached : Stack.Reached _ := ⟨_, _, _, Stack.unfinishedRun rfl rfl rfl, created, rfl⟩
  refine ⟨_, _, _, _, rfl, rfl, rfl, created, by decide, ?_⟩
  exact (manifest_renders_exactly reached).2.1 [] _ _ rfl (List.forall_mem_nil _) rfl

end ContainerStack
