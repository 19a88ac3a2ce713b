import ContainerStack.Fault
import ContainerStack.Network.Address
import ContainerStack.Text.Pieces

/-!
**Address blocks.**

A block is an address and the number of leading bits that its members share with it, written with a
slash between them.

* `Cidr.ofString`: reads a block; the length is at most 32 for IPv4 and 128 for IPv6.
* `Cidr.containsV4`: whether an IPv4 address agrees with an IPv4 block in the masked bits.
-/

namespace ContainerStack

/-- An address and a number of leading bits. -/
structure Cidr where
  address : Address
  prefixLength : Nat
  deriving DecidableEq, Repr

namespace Cidr

/-- The number of bits of an address. -/
def width : Address → Nat
  | .v4 _ => 32
  | .v6 _ => 128

/-- Reads an address, or tells that the subject is not one. -/
def addressOf (subject text : String) : Except Fault Address :=
  match Address.ofString? text with
  | some address => .ok address
  | none => .error (.malformed subject (.isNot text .ipAddress))

/-- Reads a block. -/
def ofString (subject text : String) : Except Fault Cidr := do
  match Text.cutAt? '/' text with
  | none => .error (.malformed subject (.isNot text .addressBlock))
  | some (addressText, lengthText) =>
    let address ← addressOf subject addressText
    match Numeral.unsigned? Numeral.max8 lengthText with
    | none => .error (.malformed subject (.isNot lengthText .prefixLength))
    | some length =>
      if width address < length then
        .error (.outOfRange subject (.prefixLength length (width address)))
      else .ok ⟨address, length⟩

/-- The bits that members of an IPv4 block share, as ones. -/
def mask (length : Nat) : UInt32 :=
  if length = 0 then 0 else 0xFFFFFFFF <<< UInt32.ofNat (32 - length)

/-- Whether an IPv4 address lies inside the block; no address lies inside a block of the other
family. -/
def containsV4 (block : Cidr) (member : Ipv4) : Bool :=
  match block.address with
  | .v4 base => base.bits &&& mask block.prefixLength == member.bits &&& mask block.prefixLength
  | .v6 _ => false

end Cidr

end ContainerStack
