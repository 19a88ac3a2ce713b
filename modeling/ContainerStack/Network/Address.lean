import ContainerStack.Numeral

/-!
**Internet addresses in text.**

An IPv4 address is four numbers below 256 without leading zeros, with points between them. An IPv6
address is eight groups of at most four hexadecimal digits with colons between them; one run of at
least one zero group may be written as two colons, and the last two groups as an IPv4 address. Zones
are not read.

* `Address.ofString?`: reads either family; the whole text has to be used up.
-/

namespace ContainerStack

/-- An IPv4 address, as its 32 bits. -/
structure Ipv4 where
  bits : UInt32
  deriving DecidableEq, Repr

/-- The address of four numbers, the first one highest. -/
def Ipv4.ofOctets (first second third fourth : Nat) : Ipv4 :=
  ⟨UInt32.ofNat (((first * 256 + second) * 256 + third) * 256 + fourth)⟩

/-- The four numbers of an address, the highest first. -/
def Ipv4.octets (address : Ipv4) : List Nat :=
  let number := address.bits.toNat
  [number / 0x1000000, number / 0x10000 % 0x100, number / 0x100 % 0x100, number % 0x100]

/-- An address of either family; an IPv6 address is its eight groups of 16 bits. -/
inductive Address where
  | v4 (address : Ipv4)
  | v6 (groups : List Nat)
  deriving DecidableEq, Repr

namespace Address

/-- Reads a number below 256 of at most three digits without a leading zero. -/
def octet? (text : List Char) : Option (Nat × List Char) :=
  let digits := text.takeWhile Numeral.isDigit
  let number := Numeral.ofDigits digits
  if digits.isEmpty || 3 < digits.length || 255 < number then none
  else if 1 < digits.length && digits.head? == some '0' then none
  else some (number, text.dropWhile Numeral.isDigit)

/-- Reads a given character. -/
def skip? (char : Char) : List Char → Option (List Char)
  | [] => none
  | first :: rest => if first = char then some rest else none

/-- Reads an IPv4 address from the beginning of the text. -/
def ipv4? (text : List Char) : Option (Ipv4 × List Char) := do
  let (first, text) ← octet? text
  let text ← skip? '.' text
  let (second, text) ← octet? text
  let text ← skip? '.' text
  let (third, text) ← octet? text
  let text ← skip? '.' text
  let (fourth, text) ← octet? text
  return (Ipv4.ofOctets first second third fourth, text)

/-- Reads a group of at most four hexadecimal digits. -/
def group? (text : List Char) : Option (Nat × List Char) :=
  let digits := text.takeWhile Numeral.isHexDigit
  if digits.isEmpty || 4 < digits.length then none
  else
    some (digits.foldl (fun value digit => 16 * value + Numeral.hexDigitValue digit) 0,
      text.dropWhile Numeral.isHexDigit)

/-- The colon before every group but the first. -/
def beforeGroup? (isFirst : Bool) (text : List Char) : Option (List Char) :=
  if isFirst then some text else skip? ':' text

/-- Reads at most `room` groups. The answer tells whether an IPv4 address closed them, which takes
the place of two groups. -/
def groups (isFirst : Bool) : Nat → List Char → List Nat × Bool × List Char
  | 0, text => ([], false, text)
  | room + 1, text =>
    let embedded := if room = 0 then none else (beforeGroup? isFirst text).bind ipv4?
    match embedded with
    | some (address, rest) =>
      let number := address.bits.toNat
      ([number / 0x10000, number % 0x10000], true, rest)
    | none =>
      match (beforeGroup? isFirst text).bind group? with
      | none => ([], false, text)
      | some (group, rest) =>
        let (others, closed, left) := groups false room rest
        (group :: others, closed, left)

/-- Reads an IPv6 address from the beginning of the text. -/
def ipv6? (text : List Char) : Option (List Nat × List Char) :=
  let (front, closed, rest) := groups true 8 text
  if front.length = 8 then some (front, rest)
  else if closed then none
  else do
    let rest ← skip? ':' rest
    let rest ← skip? ':' rest
    let (back, _, rest) := groups true (7 - front.length) rest
    return (front ++ List.replicate (8 - front.length - back.length) 0 ++ back, rest)

/-- The address that text writes. -/
def ofString? (text : String) : Option Address :=
  let read := match ipv4? text.toList with
    | some (address, rest) => some (Address.v4 address, rest)
    | none => (ipv6? text.toList).map fun (groups, rest) => (Address.v6 groups, rest)
  match read with
  | some (address, []) => some address
  | _ => none

end Address

end ContainerStack
