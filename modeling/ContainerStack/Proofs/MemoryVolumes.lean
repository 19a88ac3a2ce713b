import ContainerStack.Proofs.Changes

/-!
**Volumes in memory.**

A definition asks for a volume in memory with a flag and may give a size beside the options of the
driver. This is short for naming the driver of memory and giving the size among its options, and a
definition with nothing else is short for the one call that keeps a volume in memory.

* `Volume.Spec.Short`: the flag is set and nothing contradicts it. `Volume.Spec.spelledOut`: what
  the definition is short for; `Volume.ofSpec_short`.
* `VolumeStorage.ofPairs_memory`, `Volume.setTmpfs_apply`: reading a size and setting a size check
  the same storage; `Volume.ofSpec_memory`.
* `Volume.Spec.Contradicts`: what does not go together with the flag; `Volume.ofSpec_contradicts`.
* `memory_shorthand`: the three ways to memory agree, and contradictions are refused.
-/

namespace ContainerStack

open Edit

namespace Volume

/-! ### Short definitions -/

/-- The options of the driver with the size among them. -/
def Spec.sizedOptions (spec : Spec) : OrderedMap String :=
  match spec.size with
  | some size => spec.driverOptions.insert "size" size
  | none => spec.driverOptions

/-- The definition that names the driver of memory and has the size among its options. -/
def Spec.spelledOut (spec : Spec) : Spec :=
  { spec with
    isTmpfs := false
    size := none
    driver := some "tmpfs"
    driverOptions := spec.sizedOptions }

/-- The definition asks for memory, names no other driver and gives no size twice. -/
structure Spec.Short (spec : Spec) : Prop where
  asks : spec.isTmpfs = true
  driver : spec.driver = none ∨ spec.driver = some "tmpfs"
  once : spec.size.isSome = true → "size" ∉ spec.driverOptions.keys

theorem storageOf_spelledOut (spec : Spec) : storageOf spec.spelledOut =
    some <$> VolumeStorage.ofPairs "tmpfs" spec.sizedOptions := rfl

/-- **The storage of a short definition** is that of the driver of memory. -/
theorem storageOf_short {spec : Spec} (short : spec.Short) :
    storageOf spec = some <$> VolumeStorage.ofPairs "tmpfs" spec.sizedOptions := by
  obtain ⟨driver, options, external, labels, scope, mode, isTmpfs, size⟩ := spec
  obtain ⟨rfl, named, once⟩ := short
  have unnamed : storageOf ⟨none, options, external, labels, scope, mode, true, size⟩ =
      some <$> VolumeStorage.ofPairs "tmpfs"
        (Spec.sizedOptions ⟨none, options, external, labels, scope, mode, true, size⟩) := by
    cases size with
    | none => rfl
    | some size =>
      have new : options.contains "size" = false :=
        Bool.eq_false_iff.mpr fun there => once rfl (OrderedMap.contains_eq_true.mp there)
      simp only [storageOf, new]
      rfl
  rcases named with rfl | rfl
  · exact unnamed
  · exact unnamed

/-- **A short definition makes the volume that it makes when it is spelled out**, or is refused with
the same fault. -/
theorem ofSpec_short (name : String) {spec : Spec} (short : spec.Short) :
    ofSpec name spec = ofSpec name spec.spelledOut := by
  simp only [ofSpec, applySpec, storageOf_short short, storageOf_spelledOut]
  rfl

/-! ### Memory and nothing else -/

/-- The definition that asks for memory and sets nothing else but a size, if that. -/
def Spec.memory (size : Option String) : Spec where
  driver := none
  driverOptions := .empty
  external := none
  labels := .empty
  scope := none
  accessMode := none
  isTmpfs := true
  size := size

end Volume

/-- **Reading a size** is checking the storage of that size. -/
theorem VolumeStorage.ofPairs_memory (size : Option String) :
    ofPairs "tmpfs" (Volume.Spec.memory size).sizedOptions = (do
      (memory size).validate
      return memory size) := by
  have read : ofPairs "tmpfs" (Volume.Spec.memory size).sizedOptions =
      ((memory size).validate >>= fun _ => pure (memory size).options) >>=
        fun options => pure ⟨.tmpfs, options⟩ := by
    cases size <;> rfl
  rw [read, bind_assoc]
  rfl

namespace Volume

theorem storageOf_memory (size : Option String) : storageOf (.memory size) = (do
      (VolumeStorage.memory size).validate
      return some (.memory size)) := by
  have short : (Spec.memory size).Short := ⟨rfl, .inl rfl, fun _ => List.not_mem_nil⟩
  rw [storageOf_short short, VolumeStorage.ofPairs_memory, map_bind]
  rfl

/-- Setting the storage of a volume that is not marked is checking the storage. -/
theorem setStorage_apply {volume : Volume} (unmarked : volume.external = none)
    (storage : VolumeStorage) : (setStorage storage).apply volume =
      match storage.validate with
      | .ok _ => (.ok (), { volume with storage := storage })
      | .error fault => (.error fault, volume) := by
  have managed : volume.checkManaged "driver" = .ok () := by
    simp [checkManaged, shownExternal, unmarked, Validation.ensure]
  unfold setStorage
  simp only [apply_bind, apply_get, apply_lift, managed]
  cases storage.validate <;> rfl

/-- **Memory and nothing else** is what the call for memory makes of a new volume. -/
theorem ofSpec_memory (name : String) (size : Option String) :
    ofSpec name (.memory size) = (do
      let volume ← create name
      let (_, built) ← (setTmpfs size).onCopy volume
      return built) := by
  unfold ofSpec
  cases created : create name with
  | error fault => rfl
  | ok volume =>
    have unmarked : volume.external = none := by
      obtain ⟨_, _, same⟩ := bind_eq_ok.mp created
      cases same
      rfl
    have same : (applySpec (.memory size)).apply volume = (setTmpfs size).apply volume := by
      have read : (applySpec (.memory size)).apply volume =
          ((liftM (storageOf (.memory size)) : Edit Volume (Option VolumeStorage)) >>=
            fun storage => do
              storage.forM setStorage
              return ⟨⟩).apply volume := rfl
      rw [read, apply_bind, apply_lift, storageOf_memory, setTmpfs, setStorage_apply unmarked]
      cases valid : (VolumeStorage.memory size).validate with
      | error fault => rfl
      | ok _ =>
        show (setStorage (.memory size) >>= _).apply volume = _
        rw [apply_bind, setStorage_apply unmarked, valid]
        rfl
    show (applySpec (.memory size)).onCopy volume >>= _ = (setTmpfs size).onCopy volume >>= _
    rw [onCopy, onCopy, same]

/-! ### Contradictions -/

/-- What does not go together with the flag: another driver, a size that is given twice, and a size
without the flag. -/
def Spec.IsContradictory (spec : Spec) : Prop :=
  (spec.isTmpfs = true ∧ ∃ driver, spec.driver = some driver ∧ driver ≠ "tmpfs") ∨
    (spec.isTmpfs = true ∧ spec.size.isSome = true ∧ "size" ∈ spec.driverOptions.keys) ∨
    (spec.isTmpfs = false ∧ spec.size.isSome = true)

/-- The fault of a contradiction; another driver is found before a size that is given twice. -/
inductive Spec.Contradicts (spec : Spec) : Fault → Prop where
  | driver {driver : String} (asks : spec.isTmpfs = true) (named : spec.driver = some driver)
    (other : driver ≠ "tmpfs") : spec.Contradicts (.malformed "tmpfs" (.tmpfsDriver driver))
  | twice (asks : spec.isTmpfs = true) (named : spec.driver = none ∨ spec.driver = some "tmpfs")
    (sized : spec.size.isSome = true) (again : "size" ∈ spec.driverOptions.keys) :
    spec.Contradicts (.malformed "size" .sizeGivenTwice)
  | alone (asks : spec.isTmpfs = false) (sized : spec.size.isSome = true) :
    spec.Contradicts (.malformed "size" .sizeWithoutTmpfs)

theorem Spec.IsContradictory.contradicts {spec : Spec} (contradictory : spec.IsContradictory) :
    ∃ fault, spec.Contradicts fault := by
  rcases contradictory with ⟨asks, driver, named, other⟩ | ⟨asks, sized, again⟩ | ⟨asks, sized⟩
  · exact ⟨_, .driver asks named other⟩
  · cases named : spec.driver with
    | none => exact ⟨_, .twice asks (.inl named) sized again⟩
    | some driver =>
      by_cases own : driver = "tmpfs"
      · exact ⟨_, .twice asks (.inr (own ▸ named)) sized again⟩
      · exact ⟨_, .driver asks named own⟩
  · exact ⟨_, .alone asks sized⟩

/-- **A contradiction is refused with its fault.** -/
theorem storageOf_contradicts {spec : Spec} {fault : Fault} (contradicts : spec.Contradicts fault) :
    storageOf spec = .error fault := by
  obtain ⟨driver, options, external, labels, scope, mode, isTmpfs, size⟩ := spec
  cases contradicts with
  | driver asks named other =>
    cases asks
    cases named
    simp [storageOf, Validation.ensure, other]
    rfl
  | twice asks named sized again =>
    obtain ⟨text, rfl⟩ := Option.isSome_iff_exists.mp sized
    cases asks
    have there : options.contains "size" = true := OrderedMap.contains_eq_true.mpr again
    rcases named with rfl | rfl <;>
    · simp only [storageOf, there]
      rfl
  | alone asks sized =>
    obtain ⟨text, rfl⟩ := Option.isSome_iff_exists.mp sized
    cases asks
    rfl

/-- The volume with its name and its mark, before its storage is looked at. -/
def marked (name : String) (external : Option External) : Except Fault Volume := do
  let volume ← create name
  let (_, marked) ← (external.forM setExternal).onCopy volume
  return marked

/-- **A definition whose storage is refused** is refused, unless its name or its mark are. -/
theorem ofSpec_of_refused (name : String) {spec : Spec} {fault : Fault}
    (refused : storageOf spec = .error fault) :
    ofSpec name spec = (do
      let _ ← marked name spec.external
      .error fault) := by
  unfold ofSpec marked
  cases create name with
  | error first => rfl
  | ok volume =>
    show (applySpec spec).onCopy volume >>= _ =
      ((spec.external.forM setExternal).onCopy volume >>= _) >>= _
    unfold onCopy applySpec
    rw [apply_bind]
    rcases (spec.external.forM setExternal).apply volume with ⟨first | _, left⟩
    · rfl
    · simp only [apply_bind, apply_lift, refused]
      rfl

end Volume

/-- **Three ways to a volume in memory agree.** A short definition makes the same volume as when it
is spelled out, or is refused with the same fault. A definition with nothing but the flag and
possibly a size does what the call for memory does with a new volume. A definition that contradicts
the flag is refused, with the fault of the contradiction unless its name or its mark are refused
before. -/
theorem memory_shorthand :
    (∀ name (spec : Volume.Spec), spec.Short →
      Volume.ofSpec name spec = Volume.ofSpec name spec.spelledOut) ∧
    (∀ name size, Volume.ofSpec name (.memory size) = (do
      let volume ← Volume.create name
      let (_, built) ← (Volume.setTmpfs size).onCopy volume
      return built)) ∧
    ∀ name (spec : Volume.Spec), spec.IsContradictory → ∃ fault,
      Volume.ofSpec name spec = .error fault ∧
        (Volume.marked name spec.external = .error fault ∨ spec.Contradicts fault) := by
  refine ⟨fun name spec short => Volume.ofSpec_short name short, Volume.ofSpec_memory,
    fun name spec contradictory => ?_⟩
  obtain ⟨fault, contradicts⟩ := contradictory.contradicts
  have refused := Volume.ofSpec_of_refused name (Volume.storageOf_contradicts contradicts)
  cases marked : Volume.marked name spec.external with
  | error first => exact ⟨first, by rw [refused, marked]; rfl, .inl rfl⟩
  | ok volume => exact ⟨fault, by rw [refused, marked]; rfl, .inr contradicts⟩

/-- A short definition with options, a label, a scope and an access mode besides. -/
def Volume.Spec.cache : Volume.Spec where
  driver := some "tmpfs"
  driverOptions := OrderedMap.ofList [("uid", "1000")]
  external := some (.flag false)
  labels := OrderedMap.ofList [("team", "web")]
  scope := some "swarm"
  accessMode := some "ro"
  isTmpfs := true
  size := some "64m"

theorem memory_shorthand_cache :
    (Volume.Spec.cache.Short ∧ (∃ volume, Volume.ofSpec "cache" .cache = .ok volume) ∧
      Volume.ofSpec "cache" .cache = Volume.ofSpec "cache" Volume.Spec.cache.spelledOut) ∧
    (Volume.ofSpec "cache" (.memory (some "64m")) = (do
      let volume ← Volume.create "cache"
      let (_, built) ← (Volume.setTmpfs (some "64m")).onCopy volume
      return built)) ∧
    let spec : Volume.Spec := { Volume.Spec.cache with isTmpfs := false }
    spec.IsContradictory ∧ ∃ fault, Volume.ofSpec "cache" spec = .error fault ∧
      (Volume.marked "cache" spec.external = .error fault ∨ spec.Contradicts fault) := by
  obtain ⟨short, memory, contradictory⟩ := memory_shorthand
  have isShort : Volume.Spec.cache.Short := ⟨rfl, .inr rfl, fun _ => by decide⟩
  have alone : Volume.Spec.IsContradictory { Volume.Spec.cache with isTmpfs := false } :=
    .inr (.inr ⟨rfl, rfl⟩)
  exact ⟨⟨isShort, ⟨_, rfl⟩, short "cache" _ isShort⟩, memory "cache" _, alone,
    contradictory "cache" _ alone⟩

end ContainerStack
