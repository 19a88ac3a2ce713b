import ContainerStack.Manifest
import ContainerStack.Proofs.Admission
import ContainerStack.Proofs.Names

/-!
**Networks and volumes that are managed outside the stack.**

A network or a volume that is marked as external shows its mark in the manifest and nothing else.
The mark is refused where a setting is there that it would hide, and every such setting is refused
where the mark is there. A mark that was taken away can come back as long as there are no settings.

* `Network.Bare`, `Volume.Bare`: there is nothing that a mark would hide.
* `Network.Setting.Admits`, `Volume.Setting.Admits`: what an entity has to be like for a call to be
  accepted; `setting_guarded` says that this is exactly when it is.
* `Network.Separate`, `Volume.Separate`: whatever is marked is bare. `Separate.change` is about one
  call, `leads_separate` about a chain of calls.
* `external_hides_nothing`: whatever is marked is bare, and what the manifest shows of it.
-/

namespace ContainerStack

theorem OrderedMap.isEmpty_iff {α : Type} {entriesMap : OrderedMap α} :
    entriesMap.isEmpty = true ↔ entriesMap = .empty := by
  constructor
  · exact fun none => OrderedMap.ext (List.isEmpty_iff.mp none)
  · rintro rfl
    rfl

open Edit

/-! ### Networks -/

namespace Network

/-- The network has no more than its name, its scope and its mark. -/
structure Bare (network : Network) : Prop where
  driver : network.driver = .bridge
  driverOptions : network.driverOptions = .empty
  ipam : network.ipam = none
  isInternal : network.isInternal = none
  isAttachable : network.isAttachable = none
  enablesIpv6 : network.enablesIpv6 = none
  labels : network.labels = .empty

/-- **The mark asks for all settings.** -/
theorem hasSettings_eq_false {network : Network} : network.hasSettings = false ↔ network.Bare := by
  simp only [hasSettings, Bool.or_eq_false_iff, Bool.not_eq_false', bne_eq_false_iff_eq,
    Option.isSome_eq_false_iff, Option.isNone_iff_eq_none, OrderedMap.isEmpty_iff]
  constructor
  · rintro ⟨⟨⟨⟨⟨⟨options, ipam⟩, driver⟩, isInternal⟩, isAttachable⟩, enablesIpv6⟩, labels⟩
    exact ⟨driver, options, ipam, isInternal, isAttachable, enablesIpv6, labels⟩
  · rintro ⟨driver, options, ipam, isInternal, isAttachable, enablesIpv6, labels⟩
    exact ⟨⟨⟨⟨⟨⟨options, ipam⟩, driver⟩, isInternal⟩, isAttachable⟩, enablesIpv6⟩, labels⟩

/-- A call is accepted for a network. -/
def Setting.Admits (network : Network) : Setting → Prop
  | .driverOption key _ =>
    network.shownExternal = none ∧ Validation.optionKey "driver_opts" key = .ok ()
  | .external mark => mark.validate = .ok () ∧ (mark.isExternal = true → network.Bare)
  | .label key _ => network.shownExternal = none ∧ Validation.labelKey key = .ok ()
  | .scope _ => True
  | _ => network.shownExternal = none

@[simp] theorem checkManaged_eq_ok {network : Network} {subject : String} :
    network.checkManaged subject = .ok () ↔ network.shownExternal = none := by
  rw [checkManaged, Validation.ensure_eq_ok, Option.isNone_iff_eq_none]

/-- **A call of a setter is accepted exactly where it is admitted**, and then makes its change. -/
theorem setting_guarded (setting : Setting) :
    setting.edit.Guarded (setting.Admits ·) (setting.change ·) := by
  intro before after
  cases setting with
  | driver given => simp [Setting.edit, setDriver, Setting.Admits, Setting.change]
  | driverOption key value =>
    simp [Setting.edit, setDriverOption, Setting.Admits, Setting.change, and_assoc]
  | ipam given => simp [Setting.edit, setIpam, Setting.Admits, Setting.change]
  | internal flag => simp [Setting.edit, setInternal, Setting.Admits, Setting.change]
  | attachable flag => simp [Setting.edit, setAttachable, Setting.Admits, Setting.change]
  | ipv6 flag => simp [Setting.edit, setIpv6, Setting.Admits, Setting.change]
  | external mark =>
    simp only [Setting.edit, setExternal, accepts_check_bind, accepts_get_bind, Setting.Admits,
      Setting.change, ← hasSettings_eq_false, and_assoc]
    split <;> simp_all
  | label key value => simp [Setting.edit, addLabel, Setting.Admits, Setting.change, and_assoc]
  | scope given => simp [Setting.edit, setScope, Setting.Admits, Setting.change]

/-- A network that is managed outside the stack is bare. -/
def Separate (network : Network) : Prop := ∀ external ∈ network.shownExternal, network.Bare

/-- **Every accepted call keeps a network separate**: the mark is set where nothing else is, and
anything else where there is no mark. -/
theorem Separate.change {network : Network} {setting : Setting} (separate : network.Separate)
    (admitted : setting.Admits network) : (setting.change network).Separate := by
  intro external shown
  cases setting with
  | external mark =>
    obtain ⟨given, marked⟩ := Option.mem_filter_iff.mp shown
    cases given
    exact { admitted.2 marked with }
  | scope given => exact { separate external shown with }
  | driverOption key value => cases admitted.1.symm.trans shown
  | label key value => cases admitted.1.symm.trans shown
  | driver given => cases admitted.symm.trans shown
  | ipam given => cases admitted.symm.trans shown
  | internal flag => cases admitted.symm.trans shown
  | attachable flag => cases admitted.symm.trans shown
  | ipv6 flag => cases admitted.symm.trans shown

theorem leads_separate {before after : Network} (leads : Leads Calls before after)
    (separate : before.Separate) : after.Separate := by
  refine leads.keeps Separate (fun edit call network here => ?_) separate
  obtain ⟨setting, rfl⟩ := call
  exact (setting_guarded setting).left (.of_settles fun _ => setting_assigns setting) here
    here.change

/-- The network was created, bare or from a definition, and then changed by setters. -/
def Reached (network : Network) : Prop :=
  network.Built ∨ ∃ spec, Made (ofSpec · spec) Calls network

theorem Reached.built {network : Network} (reached : network.Reached) : network.Built := by
  rcases reached with built | ⟨spec, made⟩
  · exact built
  · exact made.of_made fun _ _ made => (ofSpec_eq_ok made).2

theorem Reached.separate {network : Network} (reached : network.Reached) : network.Separate := by
  obtain ⟨name, start, created, leads⟩ := reached.built
  obtain ⟨_, _, same⟩ := bind_eq_ok.mp created
  cases same
  exact leads_separate leads nofun

end Network

/-! ### Volumes -/

/-- **The plain storage** is the driver of the host without options. -/
theorem VolumeStorage.isPlain_iff {storage : VolumeStorage} :
    storage.isPlain = true ↔ storage = .plain := by
  obtain ⟨driver, options⟩ := storage
  simp only [isPlain, plain, Bool.and_eq_true, beq_iff_eq, List.isEmpty_iff]
  constructor
  · rintro ⟨rfl, none⟩
    exact congrArg _ (Subtype.ext none)
  · rintro ⟨⟩
    exact ⟨rfl, rfl⟩

namespace Volume

/-- The volume has no more than its name, its mark, its scope and its access mode. -/
structure Bare (volume : Volume) : Prop where
  storage : volume.storage = .plain
  labels : volume.labels = .empty

/-- A call is accepted for a volume. -/
def Setting.Admits (volume : Volume) : Setting → Prop
  | .storage given => volume.shownExternal = none ∧ given.validate = .ok ()
  | .tmpfs size => volume.shownExternal = none ∧ (VolumeStorage.memory size).validate = .ok ()
  | .external mark => mark.validate = .ok () ∧ (mark.isExternal = true → volume.Bare)
  | .label key _ => volume.shownExternal = none ∧ Validation.labelKey key = .ok ()
  | _ => True

@[simp] theorem checkManaged_eq_ok {volume : Volume} {subject : String} :
    volume.checkManaged subject = .ok () ↔ volume.shownExternal = none := by
  rw [checkManaged, Validation.ensure_eq_ok, Option.isNone_iff_eq_none]

/-- **The mark asks for all settings.** -/
theorem hasSettings_eq_false {volume : Volume} :
    (!volume.storage.isPlain || !volume.labels.isEmpty) = false ↔ volume.Bare := by
  rw [Bool.or_eq_false_iff, Bool.not_eq_false', Bool.not_eq_false', VolumeStorage.isPlain_iff,
    OrderedMap.isEmpty_iff]
  exact ⟨fun both => ⟨both.1, both.2⟩, fun bare => ⟨bare.storage, bare.labels⟩⟩

/-- **A call of a setter is accepted exactly where it is admitted**, and then makes its change. -/
theorem setting_guarded (setting : Setting) :
    setting.edit.Guarded (setting.Admits ·) (setting.change ·) := by
  intro before after
  cases setting with
  | storage given => simp [Setting.edit, setStorage, Setting.Admits, Setting.change, and_assoc]
  | tmpfs size =>
    simp [Setting.edit, setTmpfs, setStorage, Setting.Admits, Setting.change, and_assoc]
  | external mark =>
    simp only [Setting.edit, setExternal, accepts_check_bind, accepts_get_bind, Setting.Admits,
      Setting.change, ← hasSettings_eq_false, and_assoc]
    generalize (!before.storage.isPlain || !before.labels.isEmpty) = settings
    split <;> simp_all
  | label key value => simp [Setting.edit, addLabel, Setting.Admits, Setting.change, and_assoc]
  | scope given => simp [Setting.edit, setScope, Setting.Admits, Setting.change]
  | accessMode mode => simp [Setting.edit, setAccessMode, Setting.Admits, Setting.change]

/-- A volume that is managed outside the stack is bare. -/
def Separate (volume : Volume) : Prop := ∀ external ∈ volume.shownExternal, volume.Bare

/-- **Every accepted call keeps a volume separate.** -/
theorem Separate.change {volume : Volume} {setting : Setting} (separate : volume.Separate)
    (admitted : setting.Admits volume) : (setting.change volume).Separate := by
  intro external shown
  cases setting with
  | storage given => cases admitted.1.symm.trans shown
  | tmpfs size => cases admitted.1.symm.trans shown
  | external mark =>
    obtain ⟨given, marked⟩ := Option.mem_filter_iff.mp shown
    cases given
    exact { admitted.2 marked with }
  | label key value => cases admitted.1.symm.trans shown
  | scope given => exact { separate external shown with }
  | accessMode mode => exact { separate external shown with }

theorem leads_separate {before after : Volume} (leads : Leads Calls before after)
    (separate : before.Separate) : after.Separate := by
  refine leads.keeps Separate (fun edit call volume here => ?_) separate
  obtain ⟨setting, rfl⟩ := call
  exact (setting_guarded setting).left (.of_settles fun _ => setting_assigns setting) here
    here.change

/-- The volume was created, bare or from a definition, and then changed by setters. -/
def Reached (volume : Volume) : Prop := volume.Built ∨ ∃ spec, Made (ofSpec · spec) Calls volume

theorem Reached.built {volume : Volume} (reached : volume.Reached) : volume.Built := by
  rcases reached with built | ⟨spec, made⟩
  · exact built
  · exact made.of_made fun _ _ made => (ofSpec_eq_ok made).2

theorem Reached.separate {volume : Volume} (reached : volume.Reached) : volume.Separate := by
  obtain ⟨name, start, created, leads⟩ := reached.built
  obtain ⟨_, _, same⟩ := bind_eq_ok.mp created
  cases same
  exact leads_separate leads nofun

end Volume

/-! ### What the manifest shows -/

namespace Manifest

/-- **A bare network without a mark** shows the driver that networks have anyway. -/
theorem networkEntrySteps_unmarked {network : Network} (bare : network.Bare) :
    networkEntrySteps { network with external := none } =
      .block network.name [.raw "driver" "bridge"] := by
  obtain ⟨name, _, _, _, _, _, _, mark, _, scope⟩ := network
  obtain ⟨rfl, rfl, rfl, rfl, rfl, rfl, rfl⟩ := bare
  rfl

/-- **A bare volume without a mark** shows its name alone. -/
theorem volumeSteps_unmarked {volume : Volume} (bare : volume.Bare) :
    volumeSteps { volume with external := none } = .key volume.name := by
  obtain ⟨name, _, mark, _, scope, accessMode⟩ := volume
  obtain ⟨rfl, rfl⟩ := bare
  rfl

/-- **A marked network** shows its mark. -/
theorem networkEntrySteps_marked {network : Network} {external : External}
    (marked : network.shownExternal = some external) :
    networkEntrySteps network = .block network.name (externalSteps external) := by
  rw [networkEntrySteps, marked]

/-- **A marked volume** shows its mark. -/
theorem volumeSteps_marked {volume : Volume} {external : External}
    (marked : volume.shownExternal = some external) :
    volumeSteps volume = .block volume.name (externalSteps external) := by
  rw [volumeSteps, volumeBody, marked]
  rfl

end Manifest

/-- **What is managed outside the stack has nothing to hide.** However a network or a volume was
made and changed, with calls accepted or refused in whatever order, as long as it is marked it has
no setting that its mark would hide: without the mark its entry in the manifest would be that of one
that was just created. -/
theorem external_hides_nothing :
    (∀ network : Network, network.Reached → ∀ external, network.shownExternal = some external →
      network.Bare ∧
        Manifest.networkEntrySteps network =
          .block network.name (Manifest.externalSteps external) ∧
        Manifest.networkEntrySteps { network with external := none } =
          .block network.name [.raw "driver" "bridge"]) ∧
    ∀ volume : Volume, volume.Reached → ∀ external, volume.shownExternal = some external →
      volume.Bare ∧
        Manifest.volumeSteps volume = .block volume.name (Manifest.externalSteps external) ∧
        Manifest.volumeSteps { volume with external := none } = .key volume.name := by
  refine ⟨fun network reached external marked => ?network, fun volume reached external marked =>
    ?volume⟩
  case network =>
    have bare := reached.separate external marked
    exact ⟨bare, Manifest.networkEntrySteps_marked marked, Manifest.networkEntrySteps_unmarked bare⟩
  case volume =>
    have bare := reached.separate external marked
    exact ⟨bare, Manifest.volumeSteps_marked marked, Manifest.volumeSteps_unmarked bare⟩

/-- Calls that mark a network, take the mark away and mark it under another name. The driver and the
label come while it is marked, and are refused. -/
def Network.toggled : List (Edit Network Unit) :=
  [setExternal (.flag true), setDriver .overlay, setExternal (.flag false), setScope .swarm,
    setExternal (.named "outer"), addLabel "team" "web"]

/-- The definition of a volume that is managed outside the stack. -/
def Volume.Spec.outside : Volume.Spec :=
  ⟨none, .empty, some (.flag true), .empty, none, none, false, none⟩

theorem external_hides_nothing_toggled :
    ∃ start, Network.create "edge" = .ok start ∧
    ∃ made, Volume.ofSpec "data" .outside = .ok made ∧
      let network := Edit.run Network.toggled start
      let volume := ((Volume.setTmpfs none).apply made).2
      (network.shownExternal = some (.named "outer") ∧ network.Bare ∧
        Manifest.networkEntrySteps network =
          .block "edge" (Manifest.externalSteps (.named "outer")) ∧
        Manifest.networkEntrySteps { network with external := none } =
          .block "edge" [.raw "driver" "bridge"]) ∧
      (volume.shownExternal = some (.flag true) ∧ volume.Bare ∧
        Manifest.volumeSteps volume = .block "data" (Manifest.externalSteps (.flag true)) ∧
        Manifest.volumeSteps { volume with external := none } = .key "data") := by
  have createdNetwork : Network.create "edge" = .ok _ := rfl
  have madeVolume : Volume.ofSpec "data" .outside = .ok _ := rfl
  have calls : ∀ edit ∈ Network.toggled, Network.Calls edit := by
    simp only [Network.toggled, List.forall_mem_cons, List.not_mem_nil, false_implies, implies_true,
      and_true]
    exact ⟨⟨.external (.flag true), rfl⟩, ⟨.driver .overlay, rfl⟩, ⟨.external (.flag false), rfl⟩,
      ⟨.scope .swarm, rfl⟩, ⟨.external (.named "outer"), rfl⟩, ⟨.label "team" "web", rfl⟩⟩
  obtain ⟨networks, volumes⟩ := external_hides_nothing
  refine ⟨_, createdNetwork, _, madeVolume, ⟨rfl, networks _ (.inl ?network) _ rfl⟩,
    rfl, volumes _ (.inr ?volume) _ rfl⟩
  case network => exact ⟨_, _, createdNetwork, .run calls _⟩
  case volume => exact ⟨_, _, _, madeVolume, .single ⟨.tmpfs none, rfl⟩ _⟩

end ContainerStack
