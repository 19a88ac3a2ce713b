import ContainerStack.Proofs.AddressText
import ContainerStack.Proofs.Changes
import Mathlib.Data.List.Nodup

/-!
**Pools of addresses.**

A pool has a subnet and may have a gateway; the pools of a network have different subnets. Both are
checked on what is written: the gateway against a subnet of its own family, and a subnet against the
texts of the others.

* `IpamPool.Built`, `Ipam.Built`: what calls make. `IpamPool.Reached`, `Ipam.Reached`: what calls or
  the definition of a network make; `Network.ofSpec_ipam`.
* `IpamPool.Sound`: the subnet is read, and it admits the gateway; `IpamPool.Built.sound`.
* `gateways_inside`: an IPv4 gateway lies inside the subnet exactly if the subnet is IPv4.
  `gateway_outside`: a pool of an IPv6 subnet with an IPv4 gateway.
* `subnets_differ`: subnets differ in their texts; if two are the same IPv4 block nevertheless,
  their lengths are dressed differently. `subnet_repeated`: a block that is listed twice.
-/

namespace ContainerStack

open Edit

/-! ### One pool -/

namespace IpamPool

/-- The pool was made for a subnet and then changed by calls. -/
inductive Built : IpamPool → Prop where
  | ofSubnet {subnet : String} {pool : IpamPool} (made : ofSubnet subnet = .ok pool) : Built pool
  | withGateway {pool next : IpamPool} {gateway : String} (built : Built pool)
    (made : pool.withGateway gateway = .ok next) : Built next
  | withIpRange {pool next : IpamPool} {range : String} (built : Built pool)
    (made : pool.withIpRange range = .ok next) : Built next
  | withAuxAddress {pool next : IpamPool} {host address : String} (built : Built pool)
    (made : pool.withAuxAddress host address = .ok next) : Built next

theorem ofSpec_eq (subnet : String) (gateway range : Option String) (hosts : OrderedMap String) :
    ofSpec ⟨some subnet, gateway, range, hosts⟩ = (do
      let pool ← ofSubnet subnet
      let pool ← gateway.elim (.ok pool) pool.withGateway
      let pool ← range.elim (.ok pool) pool.withIpRange
      hosts.toList.foldlM (fun pool entry => pool.withAuxAddress entry.1 entry.2) pool) := by
  cases gateway <;> cases range <;> rfl

/-- **The pool of a definition** is made by calls. -/
theorem ofSpec_built {spec : Spec} {pool : IpamPool} (made : ofSpec spec = .ok pool) :
    pool.Built := by
  obtain ⟨subnet, gateway, range, hosts⟩ := spec
  cases subnet with
  | none => cases made
  | some subnet =>
    rw [ofSpec_eq] at made
    obtain ⟨bare, begun, made⟩ := bind_eq_ok.mp made
    obtain ⟨routed, gated, made⟩ := bind_eq_ok.mp made
    obtain ⟨ranged, limited, made⟩ := bind_eq_ok.mp made
    have one : routed.Built := by
      cases gateway with
      | none =>
        cases gated
        exact .ofSubnet begun
      | some gateway => exact .withGateway (.ofSubnet begun) gated
    have two : ranged.Built := by
      cases range with
      | none =>
        cases limited
        exact one
      | some range => exact .withIpRange one limited
    exact foldlM_keeps Built (fun _ _ _ built added => built.withAuxAddress added) made two

/-- The subnet is read as a block, and the block admits the gateway. -/
structure Sound (pool : IpamPool) (subnet : Cidr) : Prop where
  read : Cidr.ofString "ipam subnet" pool.subnet = .ok subnet
  admits : ∀ gateway, pool.gateway = some gateway → ∃ address,
    Address.ofString? gateway = some address ∧ admitsGateway subnet address = true

theorem withGateway_eq_ok {pool next : IpamPool} {gateway : String} :
    pool.withGateway gateway = .ok next ↔ ∃ address subnet,
      Address.ofString? gateway = some address ∧
        Cidr.ofString "ipam subnet" pool.subnet = .ok subnet ∧
        admitsGateway subnet address = true ∧ { pool with gateway := some gateway } = next := by
  simp only [withGateway, bind_eq_ok, Cidr.addressOf_eq_ok, Validation.ensure_eq_ok]
  constructor
  · rintro ⟨address, isAddress, subnet, read, _, admitted, same⟩
    cases same
    exact ⟨address, subnet, isAddress, read, admitted, rfl⟩
  · rintro ⟨address, subnet, isAddress, read, admitted, rfl⟩
    exact ⟨address, isAddress, subnet, read, (), admitted, rfl⟩

/-- **The pool that calls make is sound.** -/
theorem Built.sound {pool : IpamPool} (built : pool.Built) : ∃ subnet, pool.Sound subnet := by
  induction built with
  | ofSubnet made =>
    obtain ⟨subnet, read, same⟩ := bind_eq_ok.mp made
    cases same
    exact ⟨subnet, read, nofun⟩
  | withGateway _ made =>
    obtain ⟨address, subnet, isAddress, read, admitted, rfl⟩ := withGateway_eq_ok.mp made
    refine ⟨subnet, read, ?_⟩
    rintro _ ⟨⟩
    exact ⟨address, isAddress, admitted⟩
  | withIpRange _ made ih =>
    obtain ⟨_, _, same⟩ := bind_eq_ok.mp made
    cases same
    exact ih.imp fun _ sound => { sound with }
  | withAuxAddress _ made ih =>
    obtain ⟨_, _, made⟩ := bind_eq_ok.mp made
    obtain ⟨_, _, same⟩ := bind_eq_ok.mp made
    cases same
    exact ih.imp fun _ sound => { sound with }

/-- **Only an IPv4 address of an IPv4 subnet is asked to lie inside.** -/
theorem admitsGateway_iff {subnet : Cidr} {address : Address} :
    admitsGateway subnet address = true ↔ ∀ member base, address = .v4 member →
      subnet.address = .v4 base → subnet.containsV4 member = true := by
  unfold admitsGateway
  cases address <;> cases family : subnet.address <;> simp

end IpamPool

/-! ### The pools of a network -/

namespace Ipam

/-- The address management was made by calls, with pools that were made by calls. -/
inductive Built : Ipam → Prop where
  | empty : Built empty
  | withDriver {ipam next : Ipam} {driver : String} (built : Built ipam)
    (made : ipam.withDriver driver = .ok next) : Built next
  | withPool {ipam next : Ipam} {pool : IpamPool} (built : Built ipam) (pooled : pool.Built)
    (made : ipam.withPool pool = .ok next) : Built next

/-- **The address management of a definition** is made by calls. -/
theorem ofSpec_built {spec : Spec} {ipam : Ipam} (made : ofSpec spec = .ok ipam) : ipam.Built := by
  have pooled {start : Ipam} (built : start.Built) (made : spec.pools.foldlM
      (fun ipam poolSpec => do ipam.withPool (← IpamPool.ofSpec poolSpec)) start = .ok ipam) :
      ipam.Built := by
    refine foldlM_keeps Built (fun ipam poolSpec next built added => ?_) made built
    obtain ⟨pool, read, added⟩ := bind_eq_ok.mp added
    exact built.withPool (IpamPool.ofSpec_built read) added
  obtain ⟨driver, pools⟩ := spec
  cases driver with
  | none => exact pooled .empty made
  | some driver =>
    obtain ⟨_, named, made⟩ := bind_eq_ok.mp made
    exact pooled (.withDriver .empty named) made

/-- **A pool is added exactly if no other pool has the text of its subnet.** -/
theorem withPool_eq_ok {ipam next : Ipam} {pool : IpamPool} :
    ipam.withPool pool = .ok next ↔ pool.subnet ∉ ipam.pools.map IpamPool.subnet ∧
      { ipam with pools := ipam.pools ++ [pool] } = next := by
  have free : (!ipam.pools.any fun other => other.subnet == pool.subnet) = true ↔
      pool.subnet ∉ ipam.pools.map IpamPool.subnet := by
    simp
  simp only [withPool, bind_eq_ok, Validation.ensure_eq_ok, free]
  constructor
  · rintro ⟨_, new, same⟩
    cases same
    exact ⟨new, rfl⟩
  · rintro ⟨new, rfl⟩
    exact ⟨(), new, rfl⟩

/-- Every pool was made by calls, and no two have the same text for their subnets. -/
structure Sound (ipam : Ipam) : Prop where
  pools : ∀ pool ∈ ipam.pools, pool.Built
  subnets : (ipam.pools.map IpamPool.subnet).Nodup

/-- **The address management that calls make is sound.** -/
theorem Built.sound {ipam : Ipam} (built : ipam.Built) : ipam.Sound := by
  induction built with
  | empty => exact ⟨nofun, List.nodup_nil⟩
  | withDriver _ made ih =>
    obtain ⟨_, _, same⟩ := bind_eq_ok.mp made
    cases same
    exact { ih with }
  | withPool _ pooled made ih =>
    obtain ⟨new, rfl⟩ := withPool_eq_ok.mp made
    refine ⟨List.forall_mem_append.mpr ⟨ih.pools, List.forall_mem_singleton.mpr pooled⟩, ?_⟩
    rw [List.map_append, List.map_singleton, ← List.concat_eq_append]
    exact List.Nodup.concat new ih.subnets

end Ipam

/-- **The address management of a network that comes from a definition** is made by calls. -/
theorem Network.ofSpec_ipam {name : String} {spec : Spec} {network : Network} {ipam : Ipam}
    (made : ofSpec name spec = .ok network) (given : network.ipam = some ipam) : ipam.Built := by
  have through : (applySpec spec).Through
      fun edit => ∃ setting : Setting, setting.Made ∧ edit = setting.edit :=
    applySpec_through_made (fun setting made => ⟨setting, made, rfl⟩) spec
  obtain ⟨start, created, leads⟩ := through.of_created made
  refine leads.keeps (fun network => ∀ ipam, network.ipam = some ipam → ipam.Built)
    (fun edit call network here => ?step) ?start ipam given
  case start =>
    obtain ⟨_, _, same⟩ := bind_eq_ok.mp created
    cases same
    exact nofun
  case step =>
    obtain ⟨setting, made, rfl⟩ := call
    refine (setting_assigns setting).left
      (fun network => ∀ ipam, network.ipam = some ipam → ipam.Built) here fun _ => ?_
    cases setting with
    | ipam given =>
      obtain ⟨spec, made⟩ := made
      rintro _ ⟨⟩
      exact Ipam.ofSpec_built made
    | _ => exact here

/-- The address management was made by calls, or with a network from its definition. -/
def Ipam.Reached (ipam : Ipam) : Prop :=
  ipam.Built ∨ ∃ name spec network, Network.ofSpec name spec = .ok network ∧
    network.ipam = some ipam

theorem Ipam.Reached.built {ipam : Ipam} (reached : ipam.Reached) : ipam.Built := by
  rcases reached with built | ⟨name, spec, network, made, given⟩
  · exact built
  · exact Network.ofSpec_ipam made given

/-- The pool was made by calls, or with a network from its definition. -/
def IpamPool.Reached (pool : IpamPool) : Prop :=
  pool.Built ∨ ∃ name spec network ipam, Network.ofSpec name spec = .ok network ∧
    network.ipam = some ipam ∧ pool ∈ ipam.pools

theorem IpamPool.Reached.built {pool : IpamPool} (reached : pool.Reached) : pool.Built := by
  rcases reached with built | ⟨name, spec, network, ipam, made, given, member⟩
  · exact built
  · exact (Network.ofSpec_ipam made given).sound.pools pool member

/-! ### Gateways -/

/-- **An IPv4 gateway lies inside its subnet exactly if the subnet is IPv4.** The subnet of every
pool is read as a block, and its gateway as an address. A gateway is accepted exactly if it is an
address and, where it and the subnet are both IPv4, lies inside. -/
theorem gateways_inside {pool : IpamPool} (reached : pool.Reached) :
    ∃ subnet, Cidr.ofString "ipam subnet" pool.subnet = .ok subnet ∧
      (∀ gateway, pool.gateway = some gateway → ∃ address,
        Address.ofString? gateway = some address ∧ ∀ member, address = .v4 member →
          (subnet.containsV4 member = true ↔ ∃ base, subnet.address = .v4 base)) ∧
      ∀ gateway, (∃ next, pool.withGateway gateway = .ok next) ↔ ∃ address,
        Address.ofString? gateway = some address ∧ ∀ member base, address = .v4 member →
          subnet.address = .v4 base → subnet.containsV4 member = true := by
  obtain ⟨subnet, read, admits⟩ := reached.built.sound
  refine ⟨subnet, read, fun gateway given => ?inside, fun gateway => ?accepted⟩
  case inside =>
    obtain ⟨address, isAddress, admitted⟩ := admits gateway given
    refine ⟨address, isAddress, fun member isMember => ⟨fun inside => ?_, fun ⟨base, isV4⟩ => ?_⟩⟩
    · cases family : subnet.address with
      | v4 base => exact ⟨base, rfl⟩
      | v6 groups => simp [Cidr.containsV4, family] at inside
    · exact IpamPool.admitsGateway_iff.mp admitted member base isMember isV4
  case accepted =>
    simp only [IpamPool.withGateway_eq_ok, read, Except.ok.injEq, IpamPool.admitsGateway_iff]
    constructor
    · rintro ⟨_, address, _, isAddress, rfl, admitted, _⟩
      exact ⟨address, isAddress, admitted⟩
    · rintro ⟨address, isAddress, admitted⟩
      exact ⟨_, address, subnet, isAddress, rfl, admitted, rfl⟩

/-- The definition of a network with an IPv4 and an IPv6 pool, both with a gateway. -/
def Network.Spec.dual : Network.Spec where
  driver := some "overlay"
  driverOptions := .empty
  ipam := some ⟨none, [⟨some "10.10.0.0/24", some "10.10.0.1", some "10.10.0.128/25", .empty⟩,
    ⟨some "fd00::/64", some "fd00::1", none, .empty⟩]⟩
  isInternal := none
  isAttachable := some true
  enablesIpv6 := some true
  external := none
  labels := .empty
  scope := none

theorem gateways_inside_dual :
    ∃ network ipam, Network.ofSpec "mesh" .dual = .ok network ∧ network.ipam = some ipam ∧
    ∃ pool ∈ ipam.pools, pool.Reached ∧ pool.gateway = some "10.10.0.1" ∧
    ∃ subnet, Cidr.ofString "ipam subnet" pool.subnet = .ok subnet ∧
      (∀ gateway, pool.gateway = some gateway → ∃ address,
        Address.ofString? gateway = some address ∧ ∀ member, address = .v4 member →
          (subnet.containsV4 member = true ↔ ∃ base, subnet.address = .v4 base)) ∧
      ∀ gateway, (∃ next, pool.withGateway gateway = .ok next) ↔ ∃ address,
        Address.ofString? gateway = some address ∧ ∀ member base, address = .v4 member →
          subnet.address = .v4 base → subnet.containsV4 member = true := by
  have made : Network.ofSpec "mesh" .dual = .ok _ := rfl
  have reached : IpamPool.Reached _ := .inr ⟨_, _, _, _, made, rfl, List.mem_cons_self⟩
  exact ⟨_, _, made, rfl, _, List.mem_cons_self, reached, rfl, gateways_inside reached⟩

/-- **An IPv4 gateway of an IPv6 subnet is accepted**, although it does not lie inside. -/
theorem gateway_outside :
    ∃ pool : IpamPool, pool.Built ∧ pool.gateway = some "10.0.0.1" ∧
      ∃ subnet member, Cidr.ofString "ipam subnet" pool.subnet = .ok subnet ∧
        Address.ofString? "10.0.0.1" = some (.v4 member) ∧
        subnet.containsV4 member = false := by
  have made : IpamPool.ofSubnet "fd00::/64" = .ok _ := rfl
  have routed : IpamPool.withGateway ⟨"fd00::/64", none, none, .empty⟩ "10.0.0.1" = .ok _ := rfl
  exact ⟨_, .withGateway (.ofSubnet made) routed, rfl, _, _, rfl, rfl, rfl⟩

/-! ### Subnets -/

/-- **Subnets differ in their texts**, and in nothing else that is checked: a pool is added exactly
if the text of its subnet is new. Two pools that are the same IPv4 block nevertheless have its
length in different dresses, with a plus sign or with zeros in front. -/
theorem subnets_differ {ipam : Ipam} (reached : ipam.Reached) :
    (ipam.pools.map IpamPool.subnet).Nodup ∧
      (∀ pool ∈ ipam.pools, ∃ block, Cidr.ofString "ipam subnet" pool.subnet = .ok block) ∧
      (∀ pool, (∃ next, ipam.withPool pool = .ok next) ↔
        pool.subnet ∉ ipam.pools.map IpamPool.subnet) ∧
      ipam.pools.Pairwise fun first second => ∀ block,
        Cidr.ofString "ipam subnet" first.subnet = .ok block →
        Cidr.ofString "ipam subnet" second.subnet = .ok block →
          (∃ groups, block.address = .v6 groups) ∨
            ∃ base dress other, block.address = .v4 base ∧ dress ≠ other ∧
              first.subnet = Cidr.textV4 base block.prefixLength dress ∧
              second.subnet = Cidr.textV4 base block.prefixLength other := by
  obtain ⟨pools, subnets⟩ := reached.built.sound
  refine ⟨subnets, fun pool member => ?read, fun pool => ?added, ?apart⟩
  case read =>
    obtain ⟨block, sound⟩ := (pools pool member).sound
    exact ⟨block, sound.read⟩
  case added =>
    simp only [Ipam.withPool_eq_ok]
    exact ⟨fun ⟨_, new, _⟩ => new, fun new => ⟨_, new, rfl⟩⟩
  case apart =>
    refine (List.pairwise_map.mp subnets).imp fun {first second} differ block one two => ?_
    obtain ⟨address, length⟩ := block
    cases address with
    | v6 groups => exact .inl ⟨groups, rfl⟩
    | v4 base =>
      obtain ⟨dress, written⟩ := Cidr.exists_textV4 one
      obtain ⟨other, rewritten⟩ := Cidr.exists_textV4 two
      refine .inr ⟨base, dress, other, rfl, ?_, written, rewritten⟩
      rintro rfl
      exact differ (written.trans rewritten.symm)

/-- Address management with an IPv4 block in two dresses and an IPv6 block. -/
def Ipam.Spec.dressed : Ipam.Spec :=
  ⟨some "default", [⟨some "10.0.0.0/24", some "10.0.0.1", none, .empty⟩,
    ⟨some "10.0.0.0/+024", none, none, .empty⟩, ⟨some "fd00::/64", none, none, .empty⟩]⟩

theorem subnets_differ_dressed :
    ∃ ipam, Ipam.ofSpec .dressed = .ok ipam ∧ ipam.Reached ∧
      (ipam.pools.map IpamPool.subnet).Nodup ∧
      (∀ pool ∈ ipam.pools, ∃ block, Cidr.ofString "ipam subnet" pool.subnet = .ok block) ∧
      (∀ pool, (∃ next, ipam.withPool pool = .ok next) ↔
        pool.subnet ∉ ipam.pools.map IpamPool.subnet) ∧
      ipam.pools.Pairwise fun first second => ∀ block,
        Cidr.ofString "ipam subnet" first.subnet = .ok block →
        Cidr.ofString "ipam subnet" second.subnet = .ok block →
          (∃ groups, block.address = .v6 groups) ∨
            ∃ base dress other, block.address = .v4 base ∧ dress ≠ other ∧
              first.subnet = Cidr.textV4 base block.prefixLength dress ∧
              second.subnet = Cidr.textV4 base block.prefixLength other := by
  have made : Ipam.ofSpec .dressed = .ok _ := rfl
  have reached : Ipam.Reached _ := .inl (Ipam.ofSpec_built made)
  exact ⟨_, made, reached, subnets_differ reached⟩

/-- **One subnet is listed twice** in two spellings. -/
theorem subnet_repeated :
    ∃ (ipam : Ipam) (block : Cidr), ipam.Built ∧
      ipam.pools.map IpamPool.subnet = ["fd00::/64", "FD00::/64"] ∧
      ∀ pool ∈ ipam.pools, Cidr.ofString "ipam subnet" pool.subnet = .ok block := by
  have made : Ipam.ofSpec ⟨none, [⟨some "fd00::/64", none, none, .empty⟩,
    ⟨some "FD00::/64", none, none, .empty⟩]⟩ = .ok _ := rfl
  refine ⟨_, ⟨.v6 [0xFD00, 0, 0, 0, 0, 0, 0, 0], 64⟩, Ipam.ofSpec_built made, rfl, ?_⟩
  exact List.forall_mem_cons.mpr ⟨rfl, List.forall_mem_singleton.mpr rfl⟩

end ContainerStack
