import ContainerStack.Proofs.AddressBlocks
import Mathlib.Data.List.Induction

/-!
**How numbers, addresses and blocks are spelled.**

A number may be written with a plus sign and with zeros in front of its digits, and every text that
reads as the number is one of these. An IPv4 address has one spelling only. So two texts that read
as the same IPv4 block differ in the dress of its length at most; an IPv6 address has many
spellings.

* `Numeral.Dress`, `Numeral.dressed`: the spellings of a number; `Numeral.exists_dress`.
* `Ipv4.text`: the spelling of an IPv4 address; `Address.eq_text`.
* `Cidr.textV4`: the spellings of an IPv4 block; `Cidr.exists_textV4`.
-/

namespace ContainerStack

/-! ### Numbers -/

namespace Numeral

/-- What may stand before the digits of a number: a plus sign, and then zeros. -/
structure Dress where
  plus : Bool
  zeros : Nat
  deriving DecidableEq, Repr

/-- A number in a dress. -/
def dressed (dress : Dress) (number : Nat) : String :=
  String.ofList ((if dress.plus then ['+'] else []) ++
    (List.replicate dress.zeros '0' ++ Nat.toDigits 10 number))

theorem ofDigits_concat (digits : List Char) (digit : Char) :
    ofDigits (digits ++ [digit]) = 10 * ofDigits digits + digitValue digit := List.foldl_concat ..

/-- A digit is the digit of its value. -/
theorem toDigits_digitValue {digit : Char} (isDigit : isDigit digit = true) :
    digitValue digit < 10 ∧ Nat.toDigits 10 (digitValue digit) = [digit] := by
  simp only [Numeral.isDigit, Bool.and_eq_true, decide_eq_true_eq, Char.le_def,
    UInt32.le_iff_toNat_le] at isDigit
  have least : '0'.val.toNat = 48 := rfl
  have greatest : '9'.val.toNat = 57 := rfl
  have zero : '0'.toNat = 48 := rfl
  have code : digit.toNat = digit.val.toNat := rfl
  have small : digitValue digit < 10 := by
    rw [digitValue]
    omega
  refine ⟨small, ?_⟩
  rw [Nat.toDigits_of_lt_base small, List.singleton_inj, ← Char.toNat_inj,
    Nat.toNat_digitChar_of_lt_ten small, digitValue]
  omega

/-- **Digits are those of their value**, with zeros in front. -/
theorem exists_zeros {digits : List Char} (nonempty : digits ≠ [])
    (all : ∀ digit ∈ digits, isDigit digit = true) :
    ∃ zeros, digits = List.replicate zeros '0' ++ Nat.toDigits 10 (ofDigits digits) := by
  induction digits using List.reverseRecOn with
  | nil => exact absurd rfl nonempty
  | append_singleton before digit ih =>
    obtain ⟨others, last⟩ := List.forall_mem_append.mp all
    obtain ⟨small, own⟩ := toDigits_digitValue (last digit (List.mem_singleton_self digit))
    rw [ofDigits_concat]
    cases before with
    | nil => exact ⟨0, by simpa [ofDigits] using own.symm⟩
    | cons first rest =>
      obtain ⟨zeros, earlier⟩ := ih (List.cons_ne_nil first rest) others
      -- If the value so far is zero, its digit is one more zero in front.
      rcases Nat.eq_zero_or_pos (ofDigits (first :: rest)) with zero | pos
      · rw [zero, Nat.toDigits_zero, ← List.replicate_succ'] at earlier
        exact ⟨zeros + 1, by rw [zero, Nat.mul_zero, Nat.zero_add, own, ← earlier]⟩
      · have joined := Nat.toDigits_append_toDigits (by decide : 1 < 10) pos small
        refine ⟨zeros, ?_⟩
        rw [← joined, own, ← List.append_assoc, ← earlier]

/-- Digits without a zero in front of others are those of their value. -/
theorem eq_toDigits {digits : List Char} (nonempty : digits ≠ [])
    (all : ∀ digit ∈ digits, isDigit digit = true)
    (unpadded : 1 < digits.length → digits.head? ≠ some '0') :
    digits = Nat.toDigits 10 (ofDigits digits) := by
  obtain ⟨zeros, padded⟩ := exists_zeros nonempty all
  cases zeros with
  | zero => exact padded
  | succ more =>
    have long : 1 < digits.length := by
      have pos := Nat.length_toDigits_pos (b := 10) (n := ofDigits digits)
      rw [padded, List.length_append, List.length_replicate]
      omega
    refine absurd ?_ (unpadded long)
    rw [padded]
    rfl

/-- **What reads as a number is the number in some dress.** -/
theorem exists_dress {limit number : Nat} {text : String}
    (read : unsigned? limit text = some number) : ∃ dress, text = dressed dress number := by
  unfold unsigned? at read
  -- The digits are what is left when a plus sign is taken away.
  have parts : ∃ plus digits, text.toList = (if plus = true then ['+'] else []) ++ digits ∧
      (if !digits.isEmpty && digits.all isDigit && ofDigits digits ≤ limit then
        some (ofDigits digits) else none) = some number := by
    split at read
    next digits signed => exact ⟨true, digits, signed, read⟩
    next => exact ⟨false, text.toList, rfl, read⟩
  obtain ⟨plus, digits, chars, read⟩ := parts
  split at read
  · rename_i numeral
    simp only [Bool.and_eq_true, Bool.not_eq_true', List.isEmpty_eq_false_iff,
      List.all_eq_true] at numeral
    obtain ⟨zeros, same⟩ := exists_zeros numeral.1.1 numeral.1.2
    cases read
    refine ⟨⟨plus, zeros⟩, ?_⟩
    rw [dressed, ← same, ← chars, String.ofList_toList]
  · cases read

end Numeral

/-! ### IPv4 addresses -/

/-- An IPv4 address in its spelling. -/
def Ipv4.text (address : Ipv4) : String :=
  String.ofList (List.intercalate ['.'] (address.octets.map (Nat.toDigits 10)))

theorem Ipv4.octets_ofOctets {first second third fourth : Nat} (one : first ≤ 255)
    (two : second ≤ 255) (three : third ≤ 255) (four : fourth ≤ 255) :
    (ofOctets first second third fourth).octets = [first, second, third, fourth] := by
  have number : (ofOctets first second third fourth).bits.toNat =
      ((first * 256 + second) * 256 + third) * 256 + fourth :=
    UInt32.toNat_ofNat_of_lt' (by rw [UInt32.size]; omega)
  simp only [octets, number, List.cons.injEq, and_true]
  omega

namespace Address

/-- **A number of an address** has no zeros in front. -/
theorem octet?_eq {text rest : List Char} {number : Nat}
    (read : octet? text = some (number, rest)) :
    number ≤ 255 ∧ text = Nat.toDigits 10 number ++ rest := by
  unfold octet? at read
  dsimp only at read
  split at read
  · cases read
  rename_i numeral
  split at read
  · cases read
  rename_i unpadded
  cases read
  simp only [Bool.or_eq_true, decide_eq_true_eq, not_or, Nat.not_lt, List.isEmpty_iff] at numeral
  simp only [Bool.and_eq_true, decide_eq_true_eq, beq_iff_eq, not_and] at unpadded
  obtain ⟨⟨nonempty, _⟩, small⟩ := numeral
  have digits := Numeral.eq_toDigits nonempty (List.all_eq_true.mp List.all_takeWhile) unpadded
  exact ⟨small, by rw [← digits, List.takeWhile_append_dropWhile]⟩

theorem skip?_eq {char : Char} {text rest : List Char} (read : skip? char text = some rest) :
    text = char :: rest := by
  unfold skip? at read
  split at read
  · cases read
  · split at read
    · rename_i same
      cases read
      rw [same]
    · cases read

/-- **What reads as an IPv4 address begins with its spelling.** -/
theorem ipv4?_eq {text rest : List Char} {address : Ipv4}
    (read : ipv4? text = some (address, rest)) : text = address.text.toList ++ rest := by
  simp only [ipv4?, Option.bind_eq_bind, Option.bind_eq_some_iff, Prod.exists,
    Option.pure_def, Option.some.injEq, Prod.mk.injEq] at read
  obtain ⟨first, _, one, _, dot, second, _, two, _, point, third, _, three, _, stop, fourth, _,
    four, rfl, rfl⟩ := read
  obtain ⟨firstSmall, rfl⟩ := octet?_eq one
  obtain rfl := skip?_eq dot
  obtain ⟨secondSmall, rfl⟩ := octet?_eq two
  obtain rfl := skip?_eq point
  obtain ⟨thirdSmall, rfl⟩ := octet?_eq three
  obtain rfl := skip?_eq stop
  obtain ⟨fourthSmall, rfl⟩ := octet?_eq four
  simp [Ipv4.text, Ipv4.octets_ofOctets firstSmall secondSmall thirdSmall fourthSmall,
    List.intercalate]

/-- An IPv4 address is read to the end of its text. -/
theorem ipv4?_of_ofString? {text : String} {address : Ipv4}
    (read : ofString? text = some (.v4 address)) : ipv4? text.toList = some (address, []) := by
  unfold ofString? at read
  cases four : ipv4? text.toList with
  | none =>
    rw [four] at read
    cases six : ipv6? text.toList with
    | none => simp [six] at read
    | some found =>
      obtain ⟨groups, rest⟩ := found
      cases rest <;> simp [six] at read
  | some found =>
    obtain ⟨given, rest⟩ := found
    rw [four] at read
    cases rest with
    | nil =>
      cases read
      rfl
    | cons => simp at read

/-- **An IPv4 address has one spelling.** -/
theorem eq_text {text : String} {address : Ipv4} (read : ofString? text = some (.v4 address)) :
    text = address.text := by
  rw [← String.toList_inj, ipv4?_eq (ipv4?_of_ofString? read), List.append_nil]

end Address

/-! ### Blocks -/

theorem Text.cutAt?_eq {separator : Char} {text first second : String}
    (cut : cutAt? separator text = some (first, second)) :
    text = first ++ String.singleton separator ++ second := by
  unfold cutAt? at cut
  dsimp only at cut
  split at cut
  · cases cut
  · rename_i found after rest
    have same : found = separator := by
      simpa [rest] using List.head?_dropWhile_not (· != separator) text.toList
    cases cut
    rw [← String.toList_inj]
    simp [← same, ← rest]

namespace Cidr

/-- An IPv4 block with its length in some dress. -/
def textV4 (base : Ipv4) (length : Nat) (dress : Numeral.Dress) : String :=
  base.text ++ "/" ++ Numeral.dressed dress length

/-- **What reads as an IPv4 block is the block with its length in some dress.** -/
theorem exists_textV4 {subject text : String} {base : Ipv4} {length : Nat}
    (read : ofString subject text = .ok ⟨.v4 base, length⟩) :
    ∃ dress, text = textV4 base length dress := by
  obtain ⟨addressText, lengthText, cut, isAddress, isLength, _⟩ := ofString_eq_ok.mp read
  obtain ⟨dress, written⟩ := Numeral.exists_dress isLength
  refine ⟨dress, ?_⟩
  rw [textV4, ← Address.eq_text isAddress, ← written]
  exact Text.cutAt?_eq cut

end Cidr

end ContainerStack
