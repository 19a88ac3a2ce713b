import ContainerStack.External
import ContainerStack.Network.Ipam
import ContainerStack.Registry

/-!
**Networks.**

A network has a driver and may set driver options, address management, flags and labels. A network
that is managed outside the stack sets none of them.

* `Network.create`: the bridge network that sets nothing.
* `Network.setDriver`, `Network.setExternal`, …: the edits.
* `Network.ofSpec`: the network of a definition.
-/

namespace ContainerStack

/-- How a network connects containers. -/
inductive NetworkDriver where
  | bridge
  | host
  | none
  | overlay
  | macvlan
  | ipvlan
  deriving DecidableEq, Repr

namespace NetworkDriver

/-- The word for a driver. -/
def word : NetworkDriver → String
  | bridge => "bridge"
  | host => "host"
  | none => "none"
  | overlay => "overlay"
  | macvlan => "macvlan"
  | ipvlan => "ipvlan"

/-- All drivers. -/
def all : List NetworkDriver := [bridge, host, none, overlay, macvlan, ipvlan]

/-- The driver of a word. -/
def ofWord (value : String) : Except Fault NetworkDriver :=
  match all.find? fun driver => driver.word == value with
  | some driver => .ok driver
  | Option.none => .error (.malformed "network driver" (.unknownWord "driver" value []))

end NetworkDriver

/-- A network and its settings. -/
structure Network where
  name : String
  driver : NetworkDriver
  driverOptions : OrderedMap String
  ipam : Option Ipam
  isInternal : Option Bool
  isAttachable : Option Bool
  enablesIpv6 : Option Bool
  external : Option External
  labels : OrderedMap String
  scope : Scope
  deriving DecidableEq

instance : Named Network where
  kind := .network
  name := Network.name

namespace Network

/-- A network as a definition gives it. -/
structure Spec where
  driver : Option String
  driverOptions : OrderedMap String
  ipam : Option Ipam.Spec
  isInternal : Option Bool
  isAttachable : Option Bool
  enablesIpv6 : Option Bool
  external : Option External
  labels : OrderedMap String
  scope : Option String
  deriving DecidableEq

/-- The bridge network that sets nothing. -/
def create (name : String) : Except Fault Network := do
  Validation.name .network name
  return {
    name := name
    driver := .bridge
    driverOptions := .empty
    ipam := none
    isInternal := none
    isAttachable := none
    enablesIpv6 := none
    external := none
    labels := .empty
    scope := .onHost }

/-- The mark of a network that is managed outside the stack. -/
def shownExternal (network : Network) : Option External :=
  network.external.filter External.isExternal

/-- The address management, unless it sets nothing. -/
def shownIpam (network : Network) : Option Ipam := network.ipam.filter fun ipam => !ipam.isEmpty

/-- Accepts networks that are managed by the stack. -/
def checkManaged (network : Network) (subject : String) : Except Fault Unit :=
  Validation.ensure network.shownExternal.isNone
    (.malformed subject (.isExternal .network network.name))

/-- Sets the driver. -/
def setDriver (driver : NetworkDriver) : Edit Network Unit := do
  let network ← get
  network.checkManaged "driver"
  set { network with driver := driver }

/-- Sets a driver option; the last value wins. -/
def setDriverOption (key value : String) : Edit Network Unit := do
  let network ← get
  network.checkManaged "driver_opts"
  Validation.optionKey "driver_opts" key
  set { network with driverOptions := network.driverOptions.insert key value }

/-- Sets the address management. -/
def setIpam (ipam : Ipam) : Edit Network Unit := do
  let network ← get
  network.checkManaged "ipam"
  set { network with ipam := some ipam }

/-- Sets whether the network is cut off from outside. -/
def setInternal (isInternal : Bool) : Edit Network Unit := do
  let network ← get
  network.checkManaged "internal"
  set { network with isInternal := some isInternal }

/-- Sets whether single containers may join. -/
def setAttachable (isAttachable : Bool) : Edit Network Unit := do
  let network ← get
  network.checkManaged "attachable"
  set { network with isAttachable := some isAttachable }

/-- Sets whether IPv6 is used. -/
def setIpv6 (enablesIpv6 : Bool) : Edit Network Unit := do
  let network ← get
  network.checkManaged "enable_ipv6"
  set { network with enablesIpv6 := some enablesIpv6 }

/-- Whether a setting is there that a network managed outside the stack cannot have. -/
def hasSettings (network : Network) : Bool :=
  !network.driverOptions.isEmpty || network.ipam.isSome || network.driver != .bridge ||
    network.isInternal.isSome || network.isAttachable.isSome || network.enablesIpv6.isSome ||
    !network.labels.isEmpty

/-- Marks the network as managed outside the stack, or takes the mark away. -/
def setExternal (external : External) : Edit Network Unit := do
  external.validate
  let network ← get
  if external.isExternal && network.hasSettings then
    throw (.malformed "external" (.settingsBesideExternal .network network.name))
  set { network with external := some external }

/-- Adds a label; the last value of a key wins. -/
def addLabel (key value : String) : Edit Network Unit := do
  let network ← get
  network.checkManaged "labels"
  Validation.labelKey key
  set { network with labels := network.labels.insert key value }

/-- Sets the scope. -/
def setScope (scope : Scope) : Edit Network Unit :=
  modify fun network => { network with scope := scope }

/-- Applies every setting of a definition. -/
def applySpec (spec : Spec) : Edit Network Unit := do
  spec.external.forM setExternal
  spec.driver.forM fun driver => do setDriver (← NetworkDriver.ofWord driver)
  spec.driverOptions.toList.forM fun (key, value) => setDriverOption key value
  spec.ipam.forM fun ipam => do setIpam (← Ipam.ofSpec ipam)
  spec.isInternal.forM setInternal
  spec.isAttachable.forM setAttachable
  spec.enablesIpv6.forM setIpv6
  spec.labels.toList.forM fun (key, value) => addLabel key value
  spec.scope.forM fun scope => do setScope (← Scope.ofWord scope)

/-- The network of a definition. -/
def ofSpec (name : String) (spec : Spec) : Except Fault Network := do
  let network ← create name
  let (_, built) ← (applySpec spec).onCopy network
  return built

end Network

end ContainerStack
