import ContainerStack.Proofs.Integrity

/-!
**The order in which services are written.**

* `Sound.renderOrder_perm`: the order of rendering is a rearrangement of the registered services.
* `Sound.renderOrder_names`: no name occurs twice in it.
* `mem_renderOrder`, `renderOrder_eq_nil`: nobody is added, and nobody is lost.
-/

namespace ContainerStack

namespace Stack

variable {stack : Stack}

theorem Sound.service_names (sound : stack.Sound) :
    (stack.services.toList.map Service.name).Nodup := sound.services.names_nodup

/-- **The order of rendering is a rearrangement of the registered services.** -/
theorem Sound.renderOrder_perm (sound : stack.Sound) :
    stack.renderOrder.Perm stack.services.toList := by
  have distinct := sound.service_names
  unfold renderOrder
  cases chosen : stack.mainService.bind stack.services.get? with
  | none => exact .refl _
  | some main =>
    obtain ⟨name, _, found⟩ := Option.bind_eq_some_iff.mp chosen
    have registered : main ∈ stack.services.toList :=
      List.mem_map.mpr ⟨_, Registry.get?_eq_some.mp found, rfl⟩
    have others : (stack.services.toList.filter fun service => service.name != main.name) =
        stack.services.toList.erase main := by
      rw [distinct.of_map.erase_eq_filter]
      refine List.filter_congr fun service member => ?_
      have same : service.name = main.name ↔ service = main :=
        ⟨sound.services.eq_of_name member registered, congrArg Service.name⟩
      simp [bne, beq_eq_decide, same]
    show (main :: _).Perm _
    rw [others]
    exact (List.perm_cons_erase registered).symm

theorem Sound.mem_renderOrder (sound : stack.Sound) {service : Service} :
    service ∈ stack.renderOrder ↔ service ∈ stack.services.toList :=
  sound.renderOrder_perm.mem_iff

/-- **No name occurs twice.** -/
theorem Sound.renderOrder_names (sound : stack.Sound) :
    (stack.renderOrder.map Service.name).Nodup :=
  (sound.renderOrder_perm.map Service.name).nodup_iff.mpr sound.service_names

theorem Sound.renderOrder_eq_nil (sound : stack.Sound) :
    stack.renderOrder = [] ↔ stack.services.isEmpty = true := by
  have lists : stack.renderOrder = [] ↔ stack.services.toList = [] :=
    ⟨fun empty => (empty ▸ sound.renderOrder_perm).nil_eq.symm,
      fun empty => (empty ▸ sound.renderOrder_perm).eq_nil⟩
  rw [lists]
  show stack.services.entries.entries.map Prod.snd = [] ↔ stack.services.entries.entries.isEmpty = _
  rw [List.map_eq_nil_iff, List.isEmpty_iff]

end Stack

end ContainerStack
