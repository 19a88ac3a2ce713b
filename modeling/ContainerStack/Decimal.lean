import ContainerStack.Numeral

/-!
**Decimal numbers in text.**

A decimal number has an optional sign, digits with an optional point among them, and an optional
exponent; `inf`, `infinity` and `nan` in any case are numbers too. Whether a number is finite and
whether it is above zero is asked of the nearest binary number of 64 bits: from half of the distance
above the largest such number on it is infinite, and up to half of the smallest positive one it is
zero.

* `Decimal.ofString?`: reads the grammar.
* `Decimal.roundsToInfinity`, `Decimal.roundsToZero`: the two limits, compared exactly.
-/

namespace ContainerStack

/-- A decimal number as it is written. -/
inductive Decimal where
  | nan
  | infinity (negative : Bool)
  /-- The number `digits · 10 ^ exponent`, or its negative. -/
  | finite (negative : Bool) (digits : Nat) (exponent : Int)
  deriving DecidableEq, Repr

namespace Decimal

/-- The exponent after its mark: an optional sign and at least one digit, and nothing else. -/
def exponentOf? (text : List Char) : Option Int :=
  let (negative, digits) := match text with
    | '-' :: rest => (true, rest)
    | '+' :: rest => (false, rest)
    | chars => (false, chars)
  if digits.isEmpty || !digits.all Numeral.isDigit then none
  else
    let magnitude : Int := Numeral.ofDigits digits
    some (if negative then -magnitude else magnitude)

/-- The digits, point and exponent of a number without its sign. -/
def magnitudeOf? (negative : Bool) (text : List Char) : Option Decimal :=
  let whole := text.takeWhile Numeral.isDigit
  let afterWhole := text.dropWhile Numeral.isDigit
  let (fraction, afterFraction) := match afterWhole with
    | '.' :: rest => (rest.takeWhile Numeral.isDigit, rest.dropWhile Numeral.isDigit)
    | rest => ([], rest)
  if whole.isEmpty && fraction.isEmpty then none
  else
    let digits := Numeral.ofDigits (whole ++ fraction)
    let places : Int := fraction.length
    match afterFraction with
    | [] => some (finite negative digits (-places))
    | mark :: rest =>
      if mark = 'e' ∨ mark = 'E' then
        (exponentOf? rest).map fun exponent => finite negative digits (exponent - places)
      else none

/-- The number that text writes. -/
def ofString? (text : String) : Option Decimal :=
  let (negative, chars) := match text.toList with
    | '-' :: rest => (true, rest)
    | '+' :: rest => (false, rest)
    | rest => (false, rest)
  let word := chars.map Char.toLower
  if word = "nan".toList then some nan
  else if word = "inf".toList ∨ word = "infinity".toList then some (infinity negative)
  else magnitudeOf? negative chars

/-- The number of decimal digits of a number; zero has none. -/
def digitCount (number : Nat) : Nat := if number = 0 then 0 else (Nat.toDigits 10 number).length

/-- Whether `digits · 10 ^ exponent` is at least the fraction `bound / 2 ^ scale`. -/
def atLeast (digits : Nat) (exponent : Int) (bound scale : Nat) : Bool :=
  bound * Nat.pow 10 (-exponent).toNat ≤ digits * Nat.pow 10 exponent.toNat * Nat.pow 2 scale

/-- Whether the nearest number of 64 bits is infinite. Numbers of more than 310 digits are far above
the limit and numbers of fewer than one far below it, so that no large power is formed for them. -/
def roundsToInfinity : Decimal → Bool
  | nan => false
  | infinity _ => true
  | finite _ digits exponent =>
    let size := (digitCount digits : Int) + exponent
    if digits = 0 ∨ size < 1 then false
    else if 310 < size then true
    else atLeast digits exponent (Nat.pow 2 1024 - Nat.pow 2 970) 0

/-- Whether the nearest number of 64 bits is zero. -/
def roundsToZero : Decimal → Bool
  | nan => false
  | infinity _ => false
  | finite _ digits exponent =>
    let size := (digitCount digits : Int) + exponent
    if digits = 0 ∨ size < -330 then true
    else if 1 ≤ size then false
    else !(digits * Nat.pow 10 exponent.toNat * Nat.pow 2 1075 > Nat.pow 10 (-exponent).toNat)

/-- Whether the nearest number of 64 bits is finite. -/
def isFinite : Decimal → Bool
  | nan => false
  | number => !number.roundsToInfinity

/-- Whether the number has a minus sign. -/
def isNegative : Decimal → Bool
  | nan => false
  | infinity negative => negative
  | finite negative _ _ => negative

/-- Whether the nearest number of 64 bits is finite and above zero. -/
def isPositiveFinite (number : Decimal) : Bool :=
  number.isFinite && !number.isNegative && !number.roundsToZero

end Decimal

end ContainerStack
