import ContainerStack.External
import ContainerStack.Registry
import ContainerStack.Volume.Driver

/-!
**Volumes.**

A volume has a storage and may set labels, a scope and the access mode of its mounts. A volume that
is managed outside the stack has the plain storage and no labels.

* `Volume.create`: the volume that sets nothing.
* `Volume.setStorage`, `Volume.setExternal`, …: the edits.
* `Volume.ofSpec`: the volume of a definition, which may ask for memory as its storage.
-/

namespace ContainerStack

/-- A volume and its settings. -/
structure Volume where
  name : String
  storage : VolumeStorage
  external : Option External
  labels : OrderedMap String
  scope : Scope
  accessMode : AccessMode
  deriving DecidableEq

instance : Named Volume where
  kind := .volume
  name := Volume.name

namespace Volume

/-- A volume as a definition gives it. -/
structure Spec where
  driver : Option String
  driverOptions : OrderedMap String
  external : Option External
  labels : OrderedMap String
  scope : Option String
  accessMode : Option String
  isTmpfs : Bool
  size : Option String
  deriving DecidableEq

/-- The volume that sets nothing. -/
def create (name : String) : Except Fault Volume := do
  Validation.name .volume name
  return ⟨name, .plain, none, .empty, .onHost, .readWrite⟩

/-- The mark of a volume that is managed outside the stack. -/
def shownExternal (volume : Volume) : Option External := volume.external.filter External.isExternal

/-- The storage, unless it is the plain one. -/
def shownStorage (volume : Volume) : Option VolumeStorage :=
  if volume.storage.isPlain then none else some volume.storage

/-- Whether the volume is kept in memory. -/
def isTmpfs (volume : Volume) : Bool := volume.storage.driver == .tmpfs

/-- Accepts volumes that are managed by the stack. -/
def checkManaged (volume : Volume) (subject : String) : Except Fault Unit :=
  Validation.ensure volume.shownExternal.isNone
    (.malformed subject (.isExternal .volume volume.name))

/-- Sets the storage. -/
def setStorage (storage : VolumeStorage) : Edit Volume Unit := do
  let volume ← get
  volume.checkManaged "driver"
  storage.validate
  set { volume with storage := storage }

/-- Keeps the volume in memory, with an optional size. -/
def setTmpfs (size : Option String) : Edit Volume Unit := setStorage (.memory size)

/-- Marks the volume as managed outside the stack, or takes the mark away. -/
def setExternal (external : External) : Edit Volume Unit := do
  external.validate
  let volume ← get
  if external.isExternal && (!volume.storage.isPlain || !volume.labels.isEmpty) then
    throw (.malformed "external" (.settingsBesideExternal .volume volume.name))
  set { volume with external := some external }

/-- Adds a label; the last value of a key wins. -/
def addLabel (key value : String) : Edit Volume Unit := do
  let volume ← get
  volume.checkManaged "labels"
  Validation.labelKey key
  set { volume with labels := volume.labels.insert key value }

/-- Sets the scope. -/
def setScope (scope : Scope) : Edit Volume Unit :=
  modify fun volume => { volume with scope := scope }

/-- Sets the access mode of mounts that set none. -/
def setAccessMode (mode : AccessMode) : Edit Volume Unit :=
  modify fun volume => { volume with accessMode := mode }

/-- The storage that a definition asks for, if it asks for one. -/
def storageOf (spec : Spec) : Except Fault (Option VolumeStorage) :=
  if spec.isTmpfs then do
    if let some driver := spec.driver then
      Validation.ensure (driver == "tmpfs") (.malformed "tmpfs" (.tmpfsDriver driver))
    let options ← match spec.size with
      | none => .ok spec.driverOptions
      | some size => do
        Validation.ensure (!spec.driverOptions.contains "size") (.malformed "size" .sizeGivenTwice)
        .ok (spec.driverOptions.insert "size" size)
    let storage ← VolumeStorage.ofPairs "tmpfs" options
    return some storage
  else do
    Validation.ensure spec.size.isNone (.malformed "size" .sizeWithoutTmpfs)
    if spec.driver.isNone && spec.driverOptions.isEmpty then return none
    let storage ← VolumeStorage.ofPairs (spec.driver.getD "local") spec.driverOptions
    return some storage

/-- Applies every setting of a definition. -/
def applySpec (spec : Spec) : Edit Volume Unit := do
  spec.external.forM setExternal
  let storage ← storageOf spec
  storage.forM setStorage
  spec.labels.toList.forM fun (key, value) => addLabel key value
  spec.scope.forM fun scope => do setScope (← Scope.ofWord scope)
  spec.accessMode.forM fun mode => do setAccessMode (← AccessMode.ofWord mode)

/-- The volume of a definition. -/
def ofSpec (name : String) (spec : Spec) : Except Fault Volume := do
  let volume ← create name
  let (_, built) ← (applySpec spec).onCopy volume
  return built

end Volume

end ContainerStack
