import ContainerStack.Proofs.ManifestTree
import ContainerStack.Proofs.OptionTables
import ContainerStack.Proofs.RenderOrder

/-!
**What is rendered of the settings that are stored.**

Before a manifest is written, some settings are brought into the form in which they are shown: two
maps are merged, lists are joined without repetitions, options are put into the engine's words, and
the main service is moved to the front. Each of these is what the tree of the stack says of the
stored fields.

* `Manifest.mergedEnvironment_toList`, `Manifest.mergedEnvFiles_eq`: variables and their files.
* `Manifest.map_testWords`, `Manifest.externalTree?_filter`, …: words and marks.
* `Manifest.given_engineFields`: the options of a volume.
* `Sound.renderOrder_eq`: the order of the services.
-/

namespace ContainerStack

open Yaml (Tree Field)

namespace Manifest

/-! ### Variables and their files -/

theorem mem_ownOrShared {shared own : OrderedMap String} {key value : String} :
    (key, value) ∈ ownOrShared shared own ↔
      (∃ old, shared.get? key = some old ∧ (own.get? key).getD old = value) ∨
        own.get? key = some value ∧ shared.get? key = none := by
  have absent : key ∉ shared.keys ↔ shared.get? key = none := by
    rw [← OrderedMap.get?_isSome, Option.not_isSome_iff_eq_none]
  simp [ownOrShared, OrderedMap.toList, ← OrderedMap.get?_eq_some, absent]

/-- **Merged variables** are the shared ones with the own values and then the own ones. -/
theorem merge_toList (shared own : OrderedMap String) :
    (shared.merge own).toList = ownOrShared shared own := by
  have keys : (ownOrShared shared own).map Prod.fst = (shared.merge own).keys := by
    rw [OrderedMap.keys_merge, ownOrShared, List.map_append, List.map_map]
    refine congrArg (shared.keys ++ ·) ?_
    show _ = (own.toList.map Prod.fst).filter _
    rw [List.filter_map]
    refine congrArg (List.map Prod.fst) (List.filter_congr fun pair _ => ?_)
    by_cases there : pair.1 ∈ shared.keys <;> simp [OrderedMap.contains, there]
  have distinct : ((ownOrShared shared own).map Prod.fst).Nodup :=
    keys ▸ (shared.merge own).nodup_keys
  refine (OrderedMap.eq_of_lookup (shared.merge own).nodup_keys keys fun key => ?_).symm
  show _ = (shared.merge own).get? key
  rw [OrderedMap.get?_merge]
  refine Option.ext fun value => ?_
  rw [OrderedMap.lookup_eq_some distinct, mem_ownOrShared]
  cases own.get? key <;> cases shared.get? key <;> simp

theorem mergedEnvironment_toList (stack : Stack) (service : Service) :
    (mergedEnvironment stack service).toList =
      ownOrShared stack.environment service.environment :=
  merge_toList stack.environment service.environment

theorem mergedEnvFiles_eq (stack : Stack) (service : Service) :
    mergedEnvFiles stack service = (service.envFiles ++ stack.envFiles).eraseDups :=
  foldl_addNew _

/-! ### Words of services -/

theorem networkModeText_eq (mode : NetworkMode) : networkModeText mode = mode.text := by
  cases mode <;> rfl

/-- The words of a test are those of its command, after the mark of words or of a line. -/
theorem map_testWords (check : Healthcheck) :
    check.testWords.map (fun words => .sequence (words.map .text)) = check.test.map testTree := by
  rw [Healthcheck.testWords, Option.map_map]
  refine Option.map_congr fun test _ => ?_
  cases test <;> rfl

theorem isPlain_iff (build : Build) : build.isPlain = true ↔
    build.dockerfile = none ∧ build.target = none ∧ build.args.toList = [] ∧
      build.ssh.toList = [] := by
  simp [Build.isPlain, OrderedMap.isEmpty, OrderedMap.toList, and_assoc]

/-! ### Entities that are managed outside, and options of volumes -/

theorem externalTree?_none : externalTree? none = none := rfl

/-- The mark that is shown is the one that is stored, unless it says that the stack manages the
entity. -/
theorem externalTree?_filter (external : Option External) :
    externalTree? (external.filter External.isExternal) = externalTree? external := by
  cases external with
  | none => rfl
  | some external =>
    cases external with
    | named name => rfl
    | flag isExternal => cases isExternal <;> rfl

theorem engineDriver_eq (driver : VolumeDriver) : engineDriver driver = driver.engineWord := by
  cases driver <;> rfl

/-- On the host the options keep their keys. -/
theorem engineOptions_onHost {storage : VolumeStorage} (onHost : storage.driver = .onHost) :
    storage.engineOptions = storage.options.toList := by
  obtain ⟨driver, options⟩ := storage
  cases onHost
  rfl

/-- **The engine's options** are the fields of the tree that have a value. -/
theorem given_engineFields (storage : VolumeStorage) : Field.given (engineFields storage) =
    storage.engineOptions.map fun (key, value) => (key, .text value) := by
  obtain ⟨driver, options⟩ := storage
  have along {β : Type} (make : String × String → β) :=
    DriverOptions.map_toList driver.nodup_tableKeys options make
  have own : Field.given ((tableKeys driver.table).map fun key =>
      (key, (options.get? key).map .text)) =
        options.toList.map fun (key, value) => (key, .text value) := by
    rw [along, Field.given, List.filterMap_map]
    refine List.filterMap_congr fun key _ => ?_
    rw [Function.comp_apply, Option.map_map]
    rfl
  cases driver with
  | nfs =>
    unfold engineFields VolumeStorage.engineOptions
    cases extra : options.get? "options" <;> simp [Field.given, VolumeStorage.text, extra]
  | tmpfs =>
    have settings : (["size", "uid"].filterMap fun key =>
        (options.get? key).map fun value => key ++ "=" ++ value) =
          options.toList.map fun (key, value) => key ++ "=" ++ value :=
      (along fun (key, value) => key ++ "=" ++ value).symm
    unfold engineFields VolumeStorage.engineOptions
    simp only [settings]
    cases options.toList.map fun (key, value) => key ++ "=" ++ value <;> rfl
  | glusterfs => rfl
  | _ => exact own

theorem fields?_engineFields (storage : VolumeStorage) :
    Tree.fields? (engineFields storage) = Tree.pairs? storage.engineOptions := by
  rw [Tree.fields?, given_engineFields]
  rfl

end Manifest

/-! ### The order of the services -/

namespace Stack

variable {stack : Stack}

/-- The service of a name is the one that is registered under it. -/
theorem Sound.filter_name (sound : stack.Sound) (name : String) :
    (stack.services.toList.filter fun service => some name = some service.name) =
      (stack.services.get? name).toList := by
  cases found : stack.services.get? name with
  | none =>
    refine List.filter_eq_nil_iff.mpr fun service member same => ?_
    obtain rfl : name = service.name := by simpa using same
    have itself : stack.services.get? service.name = some service :=
      sound.services.get?_of_mem member
    rw [itself] at found
    cases found
  | some main =>
    obtain ⟨rfl, _⟩ := sound.services.get? found
    have registered : main ∈ stack.services.toList :=
      List.mem_map_of_mem (Registry.get?_eq_some.mp found)
    have isMain : ∀ service ∈ stack.services.toList,
        some main.name = some service.name ↔ service = main := fun service member =>
      ⟨fun same => sound.services.eq_of_name member registered (Option.some_inj.mp same).symm,
        fun same => same ▸ rfl⟩
    calc (stack.services.toList.filter fun service => some main.name = some service.name)
      _ = stack.services.toList.filter (· = main) :=
        List.filter_congr fun service member => by simp only [isMain service member]
      _ = [main] := by
        rw [List.filter_eq, List.count_eq_one_of_mem sound.service_names.of_map registered]
        rfl

/-- **The main service is rendered first**, and the others in order of registration. -/
theorem Sound.renderOrder_eq (sound : stack.Sound) : stack.renderOrder = stack.mainFirst := by
  rw [renderOrder, mainFirst]
  cases stack.mainService with
  | none => simp
  | some name =>
    have first := sound.filter_name name
    rw [first, Option.bind_some]
    cases found : stack.services.get? name with
    | none =>
      rw [found] at first
      refine (List.filter_eq_self.mpr fun service member => ?_).symm
      simpa using List.filter_eq_nil_iff.mp first service member
    | some main =>
      have named : main.name = name := (sound.services.get? found).1
      refine congrArg (main :: ·) (List.filter_congr fun service _ => ?_)
      simp [bne, beq_eq_decide, eq_comm, named]

end Stack

end ContainerStack
