import ContainerStack.Proofs.OptionTables

/-!
**Options of volume drivers, and where the engine has them.**

The engine has some options under keys of its own, and for some drivers it has several of them in
one text.

* `VolumeDriver.Takes`: the options that a driver takes, what it needs and the forms of values.
  `takes_iff_suits`: these are the options that its table accepts.
* `VolumeDriver.place`: where the engine has the value of an option. `VolumeDriver.parts`: what one
  option of the engine is put together from.
* `VolumeStorage.engineOptions_eq`: the engine's options are the fixed ones of the driver and those
  that are put together from given values. `VolumeStorage.Conveys`: so no value is lost or made up.
* `volume_options_exact`: the options of a known driver are read exactly if it takes them, and what
  is read is valid and conveys them.
-/

namespace ContainerStack

open Edit

namespace VolumeDriver

/-! ### What drivers take -/

/-- The options of a driver, in the order in which they are written out. -/
def knownKeys : VolumeDriver → List String
  | onHost => ["type", "device", "o"]
  | nfs => ["server", "share", "options"]
  | tmpfs => ["size", "uid"]
  | azureFile => ["share_name", "storage_account_name"]
  | rexray => ["size", "volumetype", "iops"]
  | glusterfs => ["servers", "volume"]
  | ceph => ["monitors", "pool", "user", "secretfile"]
  | digitalOcean => ["size", "region"]

/-- The options without which a driver is refused. -/
def requiredKeys : VolumeDriver → List String
  | nfs => ["server", "share"]
  | azureFile => ["share_name", "storage_account_name"]
  | glusterfs => ["servers", "volume"]
  | ceph => ["monitors", "pool"]
  | digitalOcean => ["size"]
  | _ => []

/-- The options that are whole numbers from 1 on. -/
def wholeNumberKeys : VolumeDriver → List String
  | rexray => ["size", "iops"]
  | digitalOcean => ["size"]
  | _ => []

/-- The options that a driver takes. -/
structure Takes (driver : VolumeDriver) (given : OrderedMap String) : Prop where
  known : ∀ key ∈ given.keys, key ∈ driver.knownKeys
  required : ∀ key ∈ driver.requiredKeys, NotBlank (given.get? key)
  exportPath : driver = nfs → ∀ value, given.get? "share" = some value →
    value.toList.head? = some '/'
  memorySize : driver = tmpfs → ∀ value, given.get? "size" = some value → isByteSize value = true
  memoryUser : driver = tmpfs → ∀ value, given.get? "uid" = some value →
    ∃ number, Numeral.unsigned? Numeral.max32 value = some number
  wholeNumbers : ∀ key ∈ driver.wholeNumberKeys, ∀ value, given.get? key = some value →
    ∃ number, Numeral.unsigned? Numeral.max64 value = some number ∧ 1 ≤ number

/-- The form of an option of a driver. -/
def formOf (driver : VolumeDriver) (key : String) : OptionForm :=
  if driver = nfs ∧ key = "share" then .absoluteExport
  else if driver = tmpfs ∧ key = "size" then .byteSize
  else if driver = tmpfs ∧ key = "uid" then .userNumber
  else if key ∈ driver.wholeNumberKeys then .wholeNumber
  else .anything

theorem tableKeys_eq (driver : VolumeDriver) : tableKeys driver.table = driver.knownKeys := by
  cases driver <;> rfl

theorem nodup_knownKeys (driver : VolumeDriver) : driver.knownKeys.Nodup :=
  driver.tableKeys_eq ▸ driver.nodup_tableKeys

theorem table_rules (driver : VolumeDriver) : ∀ rule ∈ driver.table,
    rule.form = driver.formOf rule.key ∧
      (rule.isRequired = true ↔ rule.key ∈ driver.requiredKeys) := by
  cases driver <;> decide

theorem formOf_wholeNumber (driver : VolumeDriver) :
    ∀ key ∈ driver.wholeNumberKeys, driver.formOf key = .wholeNumber := by
  cases driver <;> decide

theorem requiredKeys_subset (driver : VolumeDriver) :
    driver.requiredKeys ⊆ tableKeys driver.table := by
  cases driver <;> decide

/-- **A driver takes what its table accepts.** -/
theorem takes_iff_suits {driver : VolumeDriver} {given : OrderedMap String} :
    driver.Takes given ↔ Suits driver.table given := by
  rw [suits_iff driver.table_rules driver.requiredKeys_subset, tableKeys_eq]
  constructor
  · intro takes
    refine ⟨takes.known, takes.required, fun key value there => ?_⟩
    unfold formOf
    split_ifs with isExport isSize isUser isWhole
    · exact takes.exportPath isExport.1 value (isExport.2 ▸ there)
    · exact takes.memorySize isSize.1 value (isSize.2 ▸ there)
    · exact takes.memoryUser isUser.1 value (isUser.2 ▸ there)
    · exact takes.wholeNumbers key isWhole value there
    · trivial
  · rintro ⟨known, required, formed⟩
    refine ⟨known, required, ?nfsPath, ?memorySize, ?memoryUser, ?wholeNumbers⟩
    case nfsPath =>
      rintro rfl
      exact formed "share"
    case memorySize =>
      rintro rfl
      exact formed "size"
    case memoryUser =>
      rintro rfl
      exact formed "uid"
    case wholeNumbers =>
      intro key isWhole value there
      have whole := formed key value there
      rwa [formOf_wholeNumber driver key isWhole] at whole

/-! ### Where the engine has the values -/

/-- The place of a value among the engine's options: the key of the option, and what stands before
the value in its text. -/
structure EnginePlace where
  key : String
  lead : String

/-- The place of the value of an option. -/
def place : VolumeDriver → String → EnginePlace
  | nfs, "server" => ⟨"o", "addr="⟩
  | nfs, "options" => ⟨"o", ""⟩
  | nfs, "share" => ⟨"device", ":"⟩
  | tmpfs, key => ⟨"o", key ++ "="⟩
  | glusterfs, _ => ⟨"voluri", ""⟩
  | _, key => ⟨key, ""⟩

/-- What stands between values in one text. -/
def separator : VolumeDriver → String
  | glusterfs => ":"
  | _ => ","

/-- The engine's options that a driver has, whatever is given. -/
def fixedOptions : VolumeDriver → List (String × String)
  | nfs => [("type", "nfs")]
  | tmpfs => [("type", "tmpfs"), ("device", "tmpfs")]
  | _ => []

/-- The keys under which the engine has given values. -/
def placeKeys : VolumeDriver → List String
  | nfs => ["o", "device"]
  | tmpfs => ["o"]
  | glusterfs => ["voluri"]
  | driver => driver.knownKeys

/-- The given values that have their place under a key, each with what stands before it, in the
order of the driver's options. -/
def parts (driver : VolumeDriver) (given : OrderedMap String) (engineKey : String) : List String :=
  driver.knownKeys.filterMap fun key =>
    if (driver.place key).key = engineKey then
      (given.get? key).map fun value => (driver.place key).lead ++ value
    else none

/-- The engine's option under a key, if some given value has its place there. -/
def assembled? (driver : VolumeDriver) (given : OrderedMap String) (engineKey : String) :
    Option (String × String) :=
  if driver.parts given engineKey = [] then none
  else some (engineKey, String.intercalate driver.separator (driver.parts given engineKey))

theorem place_mem (driver : VolumeDriver) :
    ∀ key ∈ driver.knownKeys, (driver.place key).key ∈ driver.placeKeys := by
  cases driver <;> decide

theorem nodup_engineKeys (driver : VolumeDriver) :
    (driver.fixedOptions.map Prod.fst ++ driver.placeKeys).Nodup := by
  cases driver <;> decide

/-- An option that is put together has values, which make up its text. -/
theorem assembled?_eq_some {driver : VolumeDriver} {given : OrderedMap String} {key : String}
    {option : String × String} : driver.assembled? given key = some option ↔
      driver.parts given key ≠ [] ∧
        option = (key, String.intercalate driver.separator (driver.parts given key)) := by
  unfold assembled?
  split
  next empty => simp [empty]
  next full => simp [full, eq_comm]

theorem mem_parts {driver : VolumeDriver} {given : OrderedMap String} {engineKey part : String} :
    part ∈ driver.parts given engineKey ↔ ∃ key ∈ driver.knownKeys,
      (driver.place key).key = engineKey ∧ ∃ value, given.get? key = some value ∧
        (driver.place key).lead ++ value = part := by
  simp only [parts, List.mem_filterMap]
  refine exists_congr fun key => and_congr_right fun _ => ?_
  split
  next here => simp [here]
  next elsewhere => simp [elsewhere]

/-- A value under the key of its option stands there alone. -/
theorem assembled?_of_place {driver : VolumeDriver} (own : ∀ key, driver.place key = ⟨key, ""⟩)
    {given : OrderedMap String} {key : String} (listed : key ∈ driver.knownKeys) :
    driver.assembled? given key = (given.get? key).map fun value => (key, value) := by
  have parts : driver.parts given key = (given.get? key).toList := by
    simp only [parts, own, String.empty_append, Option.map_id']
    exact filterMap_only driver.nodup_knownKeys listed given.get?
  rw [assembled?, parts]
  cases given.get? key <;> simp

end VolumeDriver

namespace VolumeStorage

open VolumeDriver (assembled? parts place placeKeys fixedOptions separator)

/-- **The engine's options** are the fixed ones of the driver and those that are put together from
given values. -/
theorem engineOptions_eq {driver : VolumeDriver} {given : OrderedMap String}
    (takes : driver.Takes given) : (⟨driver, .among given⟩ : VolumeStorage).engineOptions =
      driver.fixedOptions ++ driver.placeKeys.filterMap (driver.assembled? given) := by
  have alone (own : ∀ key, driver.place key = ⟨key, ""⟩) : given.among (tableKeys driver.table) =
      driver.knownKeys.filterMap (driver.assembled? given) := by
    rw [driver.tableKeys_eq]
    exact List.filterMap_congr fun key listed => (VolumeDriver.assembled?_of_place own listed).symm
  have found {key : String} (listed : key ∈ driver.knownKeys) :=
    DriverOptions.get?_among driver.nodup_tableKeys given (driver.tableKeys_eq ▸ listed)
  cases driver with
  | nfs =>
    obtain ⟨server, isServer, _⟩ := takes.required "server" (by decide)
    obtain ⟨share, isShare, _⟩ := takes.required "share" (by decide)
    have keys : VolumeDriver.nfs.knownKeys = ["server", "share", "options"] := rfl
    have address : place .nfs "server" = ⟨"o", "addr="⟩ := rfl
    have path : place .nfs "share" = ⟨"device", ":"⟩ := rfl
    have others : place .nfs "options" = ⟨"o", ""⟩ := rfl
    cases options : given.get? "options" <;>
      simp [engineOptions, text, found, keys, isServer, isShare, options, assembled?, parts,
        placeKeys, fixedOptions, address, path, others, separator, String.append_assoc]
  | glusterfs =>
    obtain ⟨servers, isServers, _⟩ := takes.required "servers" (by decide)
    obtain ⟨volume, isVolume, _⟩ := takes.required "volume" (by decide)
    have keys : VolumeDriver.glusterfs.knownKeys = ["servers", "volume"] := rfl
    simp [engineOptions, text, found, keys, isServers, isVolume, assembled?, parts, placeKeys,
      fixedOptions, place, separator, String.append_assoc]
  | tmpfs =>
    have keys : tableKeys VolumeDriver.tmpfs.table = ["size", "uid"] := rfl
    cases size : given.get? "size" <;> cases uid : given.get? "uid" <;>
      simp [engineOptions, DriverOptions.toList, DriverOptions.among, OrderedMap.among, keys, size,
        uid, assembled?, parts, VolumeDriver.knownKeys, placeKeys, fixedOptions, place, separator]
  | _ => exact alone fun _ => rfl

/-- The engine's options have every given value in its place and nothing else but the fixed options
of the driver. -/
structure Conveys (storage : VolumeStorage) (given : OrderedMap String) : Prop where
  once : (storage.engineOptions.map Prod.fst).Nodup
  kept : ∀ key value, given.get? key = some value →
    let place := storage.driver.place key
    let parts := storage.driver.parts given place.key
    place.lead ++ value ∈ parts ∧
      (place.key, String.intercalate storage.driver.separator parts) ∈ storage.engineOptions
  only : ∀ option ∈ storage.engineOptions, option ∈ storage.driver.fixedOptions ∨
    storage.driver.parts given option.1 ≠ [] ∧
      option.2 = String.intercalate storage.driver.separator (storage.driver.parts given option.1)

theorem driverOf_eq_ok {value : String} {driver : VolumeDriver} :
    driverOf value = .ok driver ↔ driver.word = value := by
  rw [← VolumeDriver.ofWord?_eq_some, driverOf]
  cases VolumeDriver.ofWord? value <;> simp

/-- **The options of a known driver are read exactly if it takes them.** -/
theorem ofPairs_eq_ok {value : String} {given : OrderedMap String} {storage : VolumeStorage} :
    ofPairs value given = .ok storage ↔ ∃ driver : VolumeDriver, driver.word = value ∧
      driver.Takes given ∧ storage = ⟨driver, .among given⟩ := by
  simp only [VolumeDriver.takes_iff_suits]
  exact DriverOptions.read_eq_ok driverOf_eq_ok VolumeDriver.nodup_tableKeys

/-- **Options that a driver takes are conveyed to the engine.** -/
theorem conveys_among {driver : VolumeDriver} {given : OrderedMap String}
    (takes : driver.Takes given) : (⟨driver, .among given⟩ : VolumeStorage).Conveys given := by
  have written := engineOptions_eq takes
  refine ⟨?once, fun key value there => ?kept, fun option member => ?only⟩
  case once =>
    rw [written, List.map_append]
    refine List.Nodup.sublist (.append (.refl _) ?_) driver.nodup_engineKeys
    refine OrderedMap.keys_filterMap (fun engineKey option put => ?_) driver.placeKeys
    exact (VolumeDriver.assembled?_eq_some.mp put).2 ▸ rfl
  case kept =>
    have listed := takes.known key (OrderedMap.get?_isSome.mp (by rw [there]; rfl))
    have part := VolumeDriver.mem_parts.mpr ⟨key, listed, rfl, value, there, rfl⟩
    refine ⟨part, ?_⟩
    rw [written]
    refine List.mem_append_right _ (List.mem_filterMap.mpr ⟨_, driver.place_mem key listed, ?_⟩)
    exact VolumeDriver.assembled?_eq_some.mpr ⟨List.ne_nil_of_mem part, rfl⟩
  case only =>
    rw [written] at member
    rcases List.mem_append.mp member with isFixed | isPut
    · exact .inl isFixed
    · obtain ⟨engineKey, _, put⟩ := List.mem_filterMap.mp isPut
      obtain ⟨full, rfl⟩ := VolumeDriver.assembled?_eq_some.mp put
      exact .inr ⟨full, rfl⟩

end VolumeStorage

/-- **Options of volumes are read exactly and conveyed to the engine.** Whatever word and options
are given, they are read exactly if the word is that of a driver that takes the options. What is
read has the word, is valid, and the engine gets every given value in its place and nothing that was
not given, apart from the fixed options of two drivers. -/
theorem volume_options_exact (value : String) (given : OrderedMap String) :
    ((∃ storage, VolumeStorage.ofPairs value given = .ok storage) ↔
      ∃ driver : VolumeDriver, driver.word = value ∧ driver.Takes given) ∧
    ∀ storage, VolumeStorage.ofPairs value given = .ok storage →
      storage.driver.word = value ∧ storage.validate = .ok () ∧ storage.Conveys given := by
  refine ⟨⟨?accepted, ?accepts⟩, fun storage read => ?conveyed⟩
  case accepted =>
    rintro ⟨storage, read⟩
    obtain ⟨driver, named, takes, _⟩ := VolumeStorage.ofPairs_eq_ok.mp read
    exact ⟨driver, named, takes⟩
  case accepts =>
    rintro ⟨driver, named, takes⟩
    exact ⟨_, VolumeStorage.ofPairs_eq_ok.mpr ⟨driver, named, takes, rfl⟩⟩
  case conveyed =>
    obtain ⟨driver, named, takes, rfl⟩ := VolumeStorage.ofPairs_eq_ok.mp read
    have suits := VolumeDriver.takes_iff_suits.mp takes
    exact ⟨named, (DriverOptions.validate_among driver.nodup_tableKeys).mpr suits.met,
      VolumeStorage.conveys_among takes⟩

/-- Options of an export that is mounted with options of its own. -/
def VolumeDriver.exportOptions : OrderedMap String :=
  OrderedMap.ofList [("options", "nfsvers=4"), ("share", "/exports/data"), ("server", "10.0.0.5")]

/-- Options of a volume that is kept in memory. -/
def VolumeDriver.memoryOptions : OrderedMap String :=
  OrderedMap.ofList [("uid", "1000"), ("size", "64m")]

/-- Options of a volume of blocks, which the engine has under the same keys. -/
def VolumeDriver.blockOptions : OrderedMap String :=
  OrderedMap.ofList [("iops", "300"), ("volumetype", "io1"), ("size", "20")]

theorem volume_options_exact_exportOptions :
    (∃ storage, VolumeStorage.ofPairs "nfs" VolumeDriver.exportOptions = .ok storage ∧
      storage.engineOptions = [("type", "nfs"), ("o", "addr=10.0.0.5,nfsvers=4"),
        ("device", ":/exports/data")] ∧
      storage.driver.word = "nfs" ∧ storage.validate = .ok () ∧
      storage.Conveys VolumeDriver.exportOptions) ∧
    (∃ storage, VolumeStorage.ofPairs "tmpfs" VolumeDriver.memoryOptions = .ok storage ∧
      storage.engineOptions = [("type", "tmpfs"), ("device", "tmpfs"), ("o", "size=64m,uid=1000")] ∧
      storage.driver.word = "tmpfs" ∧ storage.validate = .ok () ∧
      storage.Conveys VolumeDriver.memoryOptions) ∧
    (∃ storage, VolumeStorage.ofPairs "rexray" VolumeDriver.blockOptions = .ok storage ∧
      storage.engineOptions = [("size", "20"), ("volumetype", "io1"), ("iops", "300")] ∧
      storage.driver.word = "rexray" ∧ storage.validate = .ok () ∧
      storage.Conveys VolumeDriver.blockOptions) ∧
    ¬∃ storage, VolumeStorage.ofPairs "local" VolumeDriver.blockOptions = .ok storage := by
  refine ⟨?nfs, ?tmpfs, ?rexray, ?refused⟩
  case nfs =>
    have read : VolumeStorage.ofPairs "nfs" VolumeDriver.exportOptions = .ok _ := rfl
    exact ⟨_, read, by decide, (volume_options_exact "nfs" VolumeDriver.exportOptions).2 _ read⟩
  case tmpfs =>
    have read : VolumeStorage.ofPairs "tmpfs" VolumeDriver.memoryOptions = .ok _ := rfl
    exact ⟨_, read, by decide, (volume_options_exact "tmpfs" VolumeDriver.memoryOptions).2 _ read⟩
  case rexray =>
    have read : VolumeStorage.ofPairs "rexray" VolumeDriver.blockOptions = .ok _ := rfl
    exact ⟨_, read, by decide, (volume_options_exact "rexray" VolumeDriver.blockOptions).2 _ read⟩
  case refused =>
    rw [(volume_options_exact "local" VolumeDriver.blockOptions).1]
    rintro ⟨driver, named, takes⟩
    obtain rfl : driver = .onHost := by
      revert named
      cases driver <;> decide
    exact absurd (takes.known "iops" (by decide)) (by decide)

end ContainerStack
