import ContainerStack.DriverOptions

/-!
**Drivers of volumes.**

A volume is stored through one of eight drivers, each with its own table of options. The engine
knows fewer drivers: `nfs` and `tmpfs` are its `local` driver with options of their own.

* `VolumeDriver.table`: the options that a driver knows, in the order in which they are written.
* `VolumeStorage.ofPairs`: reads the options of a driver.
* `VolumeStorage.engineOptions`: the options in the engine's words.
-/

namespace ContainerStack

/-- How a volume is stored. -/
inductive VolumeDriver where
  | onHost
  | nfs
  | tmpfs
  | azureFile
  | rexray
  | glusterfs
  | ceph
  | digitalOcean
  deriving DecidableEq, Repr

namespace VolumeDriver

/-- The word for a driver. -/
def word : VolumeDriver → String
  | onHost => "local"
  | nfs => "nfs"
  | tmpfs => "tmpfs"
  | azureFile => "azurefile"
  | rexray => "rexray"
  | glusterfs => "glusterfs"
  | ceph => "ceph"
  | digitalOcean => "digitalocean"

/-- All drivers. -/
def all : List VolumeDriver :=
  [onHost, nfs, tmpfs, azureFile, rexray, glusterfs, ceph, digitalOcean]

/-- The driver of a word. -/
def ofWord? (value : String) : Option VolumeDriver := all.find? fun driver => driver.word == value

/-- The word that the engine has for a driver. -/
def engineWord : VolumeDriver → String
  | onHost => "local"
  | nfs => "local"
  | tmpfs => "local"
  | azureFile => "azure_file"
  | rexray => "rexray/ebs"
  | glusterfs => "glusterfs"
  | ceph => "rexray/rbd"
  | digitalOcean => "rexray/dobs"

/-- The options that a driver knows. -/
def table : VolumeDriver → List OptionRule
  | onHost => [.optional "type", .optional "device", .optional "o"]
  | nfs => [.required "server", ⟨"share", true, .absoluteExport⟩, .optional "options"]
  | tmpfs => [⟨"size", false, .byteSize⟩, ⟨"uid", false, .userNumber⟩]
  | azureFile => [.required "share_name", .required "storage_account_name"]
  | rexray =>
    [⟨"size", false, .wholeNumber⟩, .optional "volumetype", ⟨"iops", false, .wholeNumber⟩]
  | glusterfs => [.required "servers", .required "volume"]
  | ceph => [.required "monitors", .required "pool", .optional "user", .optional "secretfile"]
  | digitalOcean => [⟨"size", true, .wholeNumber⟩, .optional "region"]

end VolumeDriver

/-- A driver with its options. -/
structure VolumeStorage where
  driver : VolumeDriver
  options : DriverOptions driver.table

namespace VolumeStorage

instance : DecidableEq VolumeStorage
  | ⟨firstDriver, firstOptions⟩, ⟨secondDriver, secondOptions⟩ =>
    if sameDriver : firstDriver = secondDriver then
      if sameOptions : sameDriver ▸ firstOptions = secondOptions then
        isTrue (by subst sameDriver; subst sameOptions; rfl)
      else isFalse (by rintro ⟨⟩; exact sameOptions rfl)
    else isFalse (by rintro ⟨⟩; exact sameDriver rfl)

/-- The driver of the host without options. -/
def plain : VolumeStorage := ⟨.onHost, DriverOptions.none⟩

/-- How faults call a driver. -/
def contextOf (driver : String) : String := s!"volume driver '{driver}'"

/-- How faults call the options of a driver, before their keys. -/
def subjectOf (driver : VolumeDriver) : String := driver.word ++ " "

/-- Accepts options that are there where they must be and have their forms. -/
def validate (storage : VolumeStorage) : Except Fault Unit :=
  storage.options.validate (contextOf storage.driver.word) (subjectOf storage.driver)

/-- The driver of a word, or the fault that there is none. -/
def driverOf (value : String) : Except Fault VolumeDriver :=
  match VolumeDriver.ofWord? value with
  | some driver => .ok driver
  | none => .error (.malformed "volume driver" (.unknownWord "driver" value []))

/-- Reads the options of a driver. -/
def ofPairs (driver : String) (given : OrderedMap String) : Except Fault VolumeStorage := do
  let known ← driverOf driver
  let options ← DriverOptions.ofPairs (contextOf driver) (subjectOf known) known.table given
  return ⟨known, options⟩

/-- The driver with the options that it knows among the given ones, unchecked. -/
def filled (driver : VolumeDriver) (given : OrderedMap String) : VolumeStorage :=
  ⟨driver, DriverOptions.filled given driver.table⟩

/-- Memory of the host, with an optional size. -/
def memory (size : Option String) : VolumeStorage :=
  filled .tmpfs (match size with
    | some text => OrderedMap.ofList [("size", text)]
    | none => .empty)

/-- Whether this is the driver of the host without options. -/
def isPlain (storage : VolumeStorage) : Bool :=
  storage.driver == .onHost && storage.options.toList.isEmpty

/-- The value of an option, or empty text. -/
def text (storage : VolumeStorage) (key : String) : String := (storage.options.get? key).getD ""

/-- The options in the engine's words. -/
def engineOptions (storage : VolumeStorage) : List (String × String) :=
  match storage.driver with
  | .nfs =>
    let more := match storage.options.get? "options" with
      | some extra => "," ++ extra
      | none => ""
    [("type", "nfs"), ("o", "addr=" ++ storage.text "server" ++ more),
      ("device", ":" ++ storage.text "share")]
  | .tmpfs =>
    let mountOptions := storage.options.toList.map fun (key, value) => key ++ "=" ++ value
    [("type", "tmpfs"), ("device", "tmpfs")] ++
      (if mountOptions.isEmpty then [] else [("o", String.intercalate "," mountOptions)])
  | .glusterfs => [("voluri", storage.text "servers" ++ ":" ++ storage.text "volume")]
  | _ => storage.options.toList

end VolumeStorage

end ContainerStack
