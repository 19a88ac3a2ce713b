import ContainerStack.Network.Cidr
import ContainerStack.OrderedMap
import ContainerStack.Validation

/-!
**Address management of networks.**

A pool hands out the addresses of a subnet; a gateway of the subnet's own family, if that is IPv4,
lies inside the subnet. No two pools of a network are written with the same subnet.

* `IpamPool.ofSpec`, `Ipam.ofSpec`: the pools of a definition.
-/

namespace ContainerStack

/-- Where the addresses of a network come from. -/
structure IpamPool where
  subnet : String
  gateway : Option String
  ipRange : Option String
  auxAddresses : OrderedMap String
  deriving DecidableEq

namespace IpamPool

/-- A pool as a definition gives it. -/
structure Spec where
  subnet : Option String
  gateway : Option String
  ipRange : Option String
  auxAddresses : OrderedMap String
  deriving DecidableEq

/-- The pool of a subnet. -/
def ofSubnet (subnet : String) : Except Fault IpamPool := do
  let _ ← Cidr.ofString "ipam subnet" subnet
  return ⟨subnet, none, none, .empty⟩

/-- Whether an address may be the gateway of a subnet: only an IPv4 address of an IPv4 subnet is
asked to lie inside. -/
def admitsGateway (subnet : Cidr) (gateway : Address) : Bool :=
  match gateway, subnet.address with
  | .v4 member, .v4 _ => subnet.containsV4 member
  | _, _ => true

/-- Sets the gateway. -/
def withGateway (pool : IpamPool) (gateway : String) : Except Fault IpamPool := do
  let address ← Cidr.addressOf "ipam gateway" gateway
  let subnet ← Cidr.ofString "ipam subnet" pool.subnet
  Validation.ensure (admitsGateway subnet address)
    (.outOfRange "ipam gateway" (.gatewayOutside gateway pool.subnet))
  return { pool with gateway := some gateway }

/-- Sets the block from which addresses are handed out. -/
def withIpRange (pool : IpamPool) (range : String) : Except Fault IpamPool := do
  let _ ← Cidr.ofString "ipam ip_range" range
  return { pool with ipRange := some range }

/-- Keeps an address for a host; the last address wins. -/
def withAuxAddress (pool : IpamPool) (host address : String) : Except Fault IpamPool := do
  Validation.optionKey "ipam aux_addresses" host
  let _ ← Cidr.addressOf "ipam aux_addresses" address
  return { pool with auxAddresses := pool.auxAddresses.insert host address }

/-- The pool of a definition. -/
def ofSpec (spec : Spec) : Except Fault IpamPool :=
  match spec.subnet with
  | none => .error (.missing "ipam config" "subnet")
  | some subnet => do
    let pool ← ofSubnet subnet
    let pool ← match spec.gateway with
      | some gateway => pool.withGateway gateway
      | none => .ok pool
    let pool ← match spec.ipRange with
      | some range => pool.withIpRange range
      | none => .ok pool
    spec.auxAddresses.toList.foldlM (fun pool (host, address) => pool.withAuxAddress host address)
      pool

end IpamPool

/-- The address management of a network. -/
structure Ipam where
  driver : Option String
  pools : List IpamPool
  deriving DecidableEq

namespace Ipam

/-- Address management as a definition gives it. -/
structure Spec where
  driver : Option String
  pools : List IpamPool.Spec
  deriving DecidableEq

/-- Address management that sets nothing. -/
def empty : Ipam := ⟨none, []⟩

/-- Names the driver. -/
def withDriver (ipam : Ipam) (driver : String) : Except Fault Ipam := do
  Validation.present "ipam" "driver" driver
  return { ipam with driver := some driver }

/-- Adds a pool whose subnet is not written in another pool. -/
def withPool (ipam : Ipam) (pool : IpamPool) : Except Fault Ipam := do
  Validation.ensure (!ipam.pools.any fun other => other.subnet == pool.subnet)
    (.malformed "ipam config" (.repeatedSubnet pool.subnet))
  return { ipam with pools := ipam.pools ++ [pool] }

/-- The address management of a definition. -/
def ofSpec (spec : Spec) : Except Fault Ipam := do
  let ipam ← match spec.driver with
    | some driver => empty.withDriver driver
    | none => .ok empty
  spec.pools.foldlM (fun ipam poolSpec => do ipam.withPool (← IpamPool.ofSpec poolSpec)) ipam

/-- Whether nothing is set. -/
def isEmpty (ipam : Ipam) : Bool := ipam.driver.isNone && ipam.pools.isEmpty

end Ipam

end ContainerStack
