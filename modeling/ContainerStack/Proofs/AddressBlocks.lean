import ContainerStack.Network.Cidr
import ContainerStack.Proofs.Steps
import Mathlib.Algebra.Group.Nat.Defs

/-!
**Which addresses lie inside a block.**

Members of an IPv4 block of length `n` share its first `n` bits. They are compared under a mask of
32 bits that is made by one shift. The shift is never as long as the word: the block of length zero,
which would need that, has a mask of its own.

* `Cidr.ofString_eq_ok`: what is read as a block, part by part.
* `Cidr.MaskFits`: the arithmetic of a mask stays within its 32 bits; `maskFits`.
* `Cidr.toNat_and_mask`: under a mask an address is rounded down to a multiple of a power of two.
* `Cidr.containsV4_iff`: so members agree with the block in the quotient by that power.
* `membership_exact`: what this means for every block that is read.
-/

namespace ContainerStack

open Edit

namespace Cidr

/-! ### Reading blocks -/

theorem addressOf_eq_ok {subject text : String} {address : Address} :
    addressOf subject text = .ok address ↔ Address.ofString? text = some address := by
  unfold addressOf
  cases Address.ofString? text <;> simp

/-- **A block is read** from an address and a length with a slash between them, if the address has
at least as many bits. -/
theorem ofString_eq_ok {subject text : String} {block : Cidr} :
    ofString subject text = .ok block ↔ ∃ addressText lengthText,
      Text.cutAt? '/' text = some (addressText, lengthText) ∧
        Address.ofString? addressText = some block.address ∧
        Numeral.unsigned? Numeral.max8 lengthText = some block.prefixLength ∧
        block.prefixLength ≤ width block.address := by
  unfold ofString
  cases cut : Text.cutAt? '/' text with
  | none => simp
  | some parts =>
    obtain ⟨addressText, lengthText⟩ := parts
    simp only [bind_eq_ok, addressOf_eq_ok]
    constructor
    · rintro ⟨address, isAddress, read⟩
      split at read
      · cases read
      · rename_i length isLength
        split at read
        · cases read
        · rename_i fits
          cases read
          exact ⟨_, _, rfl, isAddress, isLength, Nat.le_of_not_lt fits⟩
    · rintro ⟨_, _, ⟨⟩, isAddress, isLength, fits⟩
      refine ⟨block.address, isAddress, ?_⟩
      rw [isLength]
      exact if_neg (Nat.not_lt.mpr fits)

/-! ### Masks -/

/-- How far ones are shifted for a mask, by arithmetic on 32 bits. -/
def shift (length : Nat) : UInt32 := 32 - UInt32.ofNat length

/-- The arithmetic of a mask stays within 32 bits: nothing is taken from less, and no word is
shifted by as many bits as it has. -/
structure MaskFits (length : Nat) : Prop where
  length_le : length ≤ 32
  unshifted : length = 0 → mask length = 0
  shifted : length ≠ 0 → mask length = 0xFFFFFFFF <<< shift length
  shift_add : (shift length).toNat + length = 32
  shift_le : length ≠ 0 → (shift length).toNat ≤ 31

section Masks

variable {length : Nat}

theorem toNat_shift (fits : length ≤ 32) : (shift length).toNat = 32 - length := by
  have same : (UInt32.ofNat length).toNat = length :=
    UInt32.toNat_ofNat_of_lt' (Nat.lt_of_le_of_lt fits (by decide))
  have below : UInt32.ofNat length ≤ 32 := by
    rw [UInt32.le_iff_toNat_le, same]
    exact fits
  rw [shift, UInt32.toNat_sub_of_le _ _ below, same]
  rfl

theorem mask_of_ne_zero (fits : length ≤ 32) (positive : length ≠ 0) :
    mask length = 0xFFFFFFFF <<< shift length := by
  rw [mask, if_neg positive, ← toNat_shift fits, UInt32.ofNat_toNat]

/-- **The mask of every length of an IPv4 block fits.** -/
theorem maskFits (fits : length ≤ 32) : MaskFits length := by
  have amount := toNat_shift fits
  exact ⟨fits, fun zero => if_pos zero, mask_of_ne_zero fits, by omega, by omega⟩

/-- **Under a mask** an address is rounded down to a multiple of a power of two. -/
theorem toNat_and_mask (fits : length ≤ 32) (word : UInt32) :
    (word &&& mask length).toNat = word.toNat / 2 ^ (32 - length) * 2 ^ (32 - length) := by
  by_cases zero : length = 0
  · subst zero
    have small : word.toNat / 2 ^ 32 = 0 := Nat.div_eq_of_lt word.toNat_lt
    rw [mask, if_pos rfl, UInt32.and_zero, Nat.sub_zero, small, Nat.zero_mul]
    rfl
  · have amount := toNat_shift fits
    have within : (shift length).toNat % 32 = 32 - length := by omega
    -- Shifting there and back puts zeros in the place of the bits that the mask clears.
    have rounded : word &&& mask length = word >>> shift length <<< shift length := by
      rw [mask_of_ne_zero fits zero]
      exact UInt32.toBitVec_inj.mp BitVec.shiftLeft_ushiftRight.symm
    rw [rounded, UInt32.toNat_shiftLeft, UInt32.toNat_shiftRight, within,
      Nat.shiftRight_eq_div_pow, Nat.shiftLeft_eq]
    exact Nat.mod_eq_of_lt (Nat.lt_of_le_of_lt (Nat.div_mul_le_self _ _) word.toNat_lt)

/-! ### Members -/

/-- **The members of an IPv4 block** are the addresses with the same quotient. -/
theorem containsV4_iff (fits : length ≤ 32) {base member : Ipv4} :
    containsV4 ⟨.v4 base, length⟩ member = true ↔
      base.bits.toNat / 2 ^ (32 - length) = member.bits.toNat / 2 ^ (32 - length) := by
  have pos : 0 < 2 ^ (32 - length) := Nat.two_pow_pos _
  rw [containsV4, beq_iff_eq, ← UInt32.toNat_inj, toNat_and_mask fits, toNat_and_mask fits]
  exact Nat.mul_right_cancel_iff pos

/-- **A shorter block of the same address** has all members. -/
theorem containsV4_shorter (fits : length ≤ 32) {shorter : Nat} (less : shorter ≤ length)
    {base member : Ipv4} (inside : containsV4 ⟨.v4 base, length⟩ member = true) :
    containsV4 ⟨.v4 base, shorter⟩ member = true := by
  have rest : 32 - shorter = (32 - length) + (length - shorter) := by omega
  rw [containsV4_iff fits] at inside
  rw [containsV4_iff (Nat.le_trans less fits), rest, Nat.pow_add, ← Nat.div_div_eq_div_mul, inside,
    Nat.div_div_eq_div_mul]

end Masks

end Cidr

/-- **Membership is exact.** For every text that is read as a block: if the block is IPv4, the
arithmetic of its mask fits into 32 bits, an address lies inside exactly if it has the same quotient
by `2 ^ (32 - n)` as the address of the block, where `n` is the length, no member is lost by a
shorter length, and the address of the block lies inside. If the block is IPv6, no IPv4 address lies
inside. -/
theorem membership_exact {subject text : String} {block : Cidr}
    (read : Cidr.ofString subject text = .ok block) :
    (∀ base, block.address = .v4 base →
      Cidr.MaskFits block.prefixLength ∧
      (∀ member, block.containsV4 member = true ↔
        base.bits.toNat / 2 ^ (32 - block.prefixLength) =
          member.bits.toNat / 2 ^ (32 - block.prefixLength)) ∧
      (∀ shorter ≤ block.prefixLength, ∀ member, block.containsV4 member = true →
        Cidr.containsV4 ⟨.v4 base, shorter⟩ member = true) ∧
      block.containsV4 base = true) ∧
    ∀ groups, block.address = .v6 groups → ∀ member, block.containsV4 member = false := by
  obtain ⟨_, _, _, _, _, bounded⟩ := Cidr.ofString_eq_ok.mp read
  obtain ⟨address, length⟩ := block
  constructor
  · rintro base rfl
    have fits : length ≤ 32 := bounded
    exact ⟨Cidr.maskFits fits, fun member => Cidr.containsV4_iff fits,
      fun shorter less member inside => Cidr.containsV4_shorter fits less inside,
      (Cidr.containsV4_iff fits).mpr rfl⟩
  · rintro groups rfl member
    rfl

/-- A block of length zero, whose mask is not shifted, has every address. -/
theorem membership_exact_everywhere :
    ∃ block, Cidr.ofString "subnet" "10.0.0.0/0" = .ok block ∧
      (block.address = .v4 ⟨0x0A000000⟩ ∧ block.prefixLength = 0 ∧
        block.containsV4 ⟨0xFFFFFFFF⟩ = true) ∧
      (∀ base, block.address = .v4 base →
        Cidr.MaskFits block.prefixLength ∧
        (∀ member, block.containsV4 member = true ↔
          base.bits.toNat / 2 ^ (32 - block.prefixLength) =
            member.bits.toNat / 2 ^ (32 - block.prefixLength)) ∧
        (∀ shorter ≤ block.prefixLength, ∀ member, block.containsV4 member = true →
          Cidr.containsV4 ⟨.v4 base, shorter⟩ member = true) ∧
        block.containsV4 base = true) ∧
      ∀ groups, block.address = .v6 groups → ∀ member, block.containsV4 member = false := by
  have read : Cidr.ofString "subnet" "10.0.0.0/0" = .ok ⟨.v4 ⟨0x0A000000⟩, 0⟩ := by rfl
  exact ⟨_, read, ⟨rfl, rfl, by decide⟩, membership_exact read⟩

end ContainerStack
