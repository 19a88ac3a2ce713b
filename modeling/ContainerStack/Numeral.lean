/-!
**Unsigned numbers in text.**

A number is written in ASCII digits with at most one plus sign before them. Leading zeros are
allowed, blanks are not, and a number above the limit of its type is refused.
-/

namespace ContainerStack.Numeral

/-- Whether a character is an ASCII digit. -/
def isDigit (char : Char) : Bool := '0' ≤ char && char ≤ '9'

/-- The value of an ASCII digit. -/
def digitValue (char : Char) : Nat := char.toNat - '0'.toNat

/-- Whether a character is a hexadecimal digit. -/
def isHexDigit (char : Char) : Bool :=
  isDigit char || ('a' ≤ char && char ≤ 'f') || ('A' ≤ char && char ≤ 'F')

/-- The value of a hexadecimal digit. -/
def hexDigitValue (char : Char) : Nat :=
  if isDigit char then digitValue char
  else if 'a' ≤ char then char.toNat - 'a'.toNat + 10
  else char.toNat - 'A'.toNat + 10

/-- The number that a run of digits writes. -/
def ofDigits (digits : List Char) : Nat :=
  digits.foldl (fun value digit => 10 * value + digitValue digit) 0

/-- The number that text writes, if it is a numeral and not above the limit. -/
def unsigned? (limit : Nat) (text : String) : Option Nat :=
  let digits := match text.toList with
    | '+' :: rest => rest
    | chars => chars
  if !digits.isEmpty && digits.all isDigit && ofDigits digits ≤ limit then some (ofDigits digits)
  else none

/-- The largest number of 8 bits. -/
def max8 : Nat := 0xFF

/-- The largest number of 32 bits. -/
def max32 : Nat := 0xFFFFFFFF

/-- The largest number of 64 bits. -/
def max64 : Nat := 0xFFFFFFFFFFFFFFFF

end ContainerStack.Numeral
