import ContainerStack.Proofs.References
import ContainerStack.Secret

/-!
**Names of networks, volumes, secrets and configs.**

An entity gets its name when it is created, the name is checked then, and no setter changes it.

* `Network.Built`, `Volume.Built`: created and then changed by setters; `Built.named`.
* `Network.ofSpec_eq_ok`, `Volume.ofSpec_eq_ok`, `Secret.ofSpec_eq_ok`, `ConfigFile.ofSpec_eq_ok`:
  the entity of a definition has the name that it was given, which is a name.
-/

namespace ContainerStack

/-! ### Networks -/

namespace Network

/-- The network was created and then changed by setters. -/
abbrev Built : Network → Prop := Edit.Made create Calls

theorem leads_name {before after : Network} (leads : Edit.Leads Calls before after) :
    after.name = before.name := by
  refine leads.keeps_view Network.name fun edit call network => ?_
  obtain ⟨setting, rfl⟩ := call
  exact (setting_assigns setting).left (fun left => left.name = network.name) rfl
    fun _ => setting.change_name network

theorem create_eq_ok {name : String} {network : Network} (created : create name = .ok network) :
    network.name = name ∧ isEntityName name = true := by
  obtain ⟨_, valid, same⟩ := Edit.bind_eq_ok.mp created
  cases same
  exact ⟨rfl, Validation.name_eq_ok.mp valid⟩

theorem Built.named {network : Network} (built : network.Built) :
    isEntityName network.name = true := by
  obtain ⟨_, start, created, leads⟩ := built
  obtain ⟨same, valid⟩ := create_eq_ok created
  rw [leads_name leads, same]
  exact valid

/-- **The network of a definition** has the name that it was given and was built by setters. -/
theorem ofSpec_eq_ok {name : String} {spec : Spec} {network : Network}
    (made : ofSpec name spec = .ok network) : network.name = name ∧ network.Built := by
  obtain ⟨start, created, leads⟩ := (applySpec_through spec).of_created made
  exact ⟨(leads_name leads).trans (create_eq_ok created).1, name, start, created, leads⟩

end Network

/-! ### Volumes -/

namespace Volume

/-- The volume was created and then changed by setters. -/
abbrev Built : Volume → Prop := Edit.Made create Calls

theorem leads_name {before after : Volume} (leads : Edit.Leads Calls before after) :
    after.name = before.name := by
  refine leads.keeps_view Volume.name fun edit call volume => ?_
  obtain ⟨setting, rfl⟩ := call
  exact (setting_assigns setting).left (fun left => left.name = volume.name) rfl
    fun _ => setting.change_name volume

theorem create_eq_ok {name : String} {volume : Volume} (created : create name = .ok volume) :
    volume.name = name ∧ isEntityName name = true := by
  obtain ⟨_, valid, same⟩ := Edit.bind_eq_ok.mp created
  cases same
  exact ⟨rfl, Validation.name_eq_ok.mp valid⟩

theorem Built.named {volume : Volume} (built : volume.Built) :
    isEntityName volume.name = true := by
  obtain ⟨_, start, created, leads⟩ := built
  obtain ⟨same, valid⟩ := create_eq_ok created
  rw [leads_name leads, same]
  exact valid

/-- **The volume of a definition** has the name that it was given and was built by setters. -/
theorem ofSpec_eq_ok {name : String} {spec : Spec} {volume : Volume}
    (made : ofSpec name spec = .ok volume) : volume.name = name ∧ volume.Built := by
  obtain ⟨start, created, leads⟩ := (applySpec_through spec).of_created made
  exact ⟨(leads_name leads).trans (create_eq_ok created).1, name, start, created, leads⟩

end Volume

/-! ### Secrets and configs -/

/-- **The secret of a definition** has the name that it was given, which is a name. -/
theorem Secret.ofSpec_eq_ok {name : String} {spec : Spec} {lookup : EntityLookup} {secret : Secret}
    (made : ofSpec name spec lookup = .ok secret) :
    secret.name = name ∧ isEntityName secret.name = true := by
  unfold ofSpec at made
  split at made
  · cases made
  · obtain ⟨_, valid, made⟩ := Edit.bind_eq_ok.mp made
    obtain ⟨_, _, made⟩ := Edit.bind_eq_ok.mp made
    obtain ⟨_, _, same⟩ := Edit.bind_eq_ok.mp made
    cases same
    exact ⟨rfl, Validation.name_eq_ok.mp valid⟩
  · obtain ⟨_, valid, same⟩ := Edit.bind_eq_ok.mp made
    cases same
    exact ⟨rfl, Validation.name_eq_ok.mp valid⟩
  · cases made

/-- **The config of a definition** has the name that it was given, which is a name. -/
theorem ConfigFile.ofSpec_eq_ok {name : String} {spec : Spec} {lookup : EntityLookup}
    {config : ConfigFile} (made : ofSpec name spec lookup = .ok config) :
    config.name = name ∧ isEntityName config.name = true := by
  unfold ofSpec at made
  split at made
  · cases made
  · obtain ⟨_, valid, made⟩ := Edit.bind_eq_ok.mp made
    obtain ⟨_, _, made⟩ := Edit.bind_eq_ok.mp made
    obtain ⟨_, _, same⟩ := Edit.bind_eq_ok.mp made
    cases same
    exact ⟨rfl, Validation.name_eq_ok.mp valid⟩

end ContainerStack
