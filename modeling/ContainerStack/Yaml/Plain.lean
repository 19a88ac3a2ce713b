import ContainerStack.Decimal

/-!
**What plain scalars of YAML mean.**

A scalar without quotes can stand for nothing, a truth value, an integer or another number;
otherwise it is the text itself.

* `Plain.isNothing`, `Plain.boolean?`, `Plain.unsigned?`, `Plain.whole?`, `Plain.isNumber`: the
  readings that are asked for by type.
* `Plain.meaning`: the first reading that fits.
-/

namespace ContainerStack.Yaml.Plain

/-- Whether a scalar stands for nothing. -/
def isNothing (text : String) : Bool := ["null", "Null", "NULL", "~"].contains text

/-- The truth value of a scalar. -/
def boolean? (text : String) : Option Bool :=
  if ["true", "True", "TRUE"].contains text then some true
  else if ["false", "False", "FALSE"].contains text then some false
  else none

/-- The number that digits of a base write, if there is one and all are digits of the base. -/
def ofDigits? (base : Nat) (digits : List Char) : Option Nat :=
  if digits.isEmpty || !digits.all fun digit =>
      Numeral.isHexDigit digit && Numeral.hexDigitValue digit < base then none
  else some (digits.foldl (fun value digit => base * value + Numeral.hexDigitValue digit) 0)

/-- The digits of a number with a mark for its base, and the base. -/
def marked? : List Char → Option (Nat × List Char)
  | '0' :: 'x' :: rest => some (16, rest)
  | '0' :: 'o' :: rest => some (8, rest)
  | '0' :: 'b' :: rest => some (2, rest)
  | _ => none

/-- Whether digits begin with a zero that is not the whole number. -/
def hasLeadingZero (digits : List Char) : Bool :=
  1 < digits.length && digits.head? == some '0' && digits.all Numeral.isDigit

/-- The number that a scalar without sign writes, in base ten or with a mark for its base. -/
def magnitude? (text : List Char) : Option Nat :=
  match (marked? text).bind fun (base, digits) => ofDigits? base digits with
  | some number => some number
  | none => if hasLeadingZero text then none else ofDigits? 10 text

/-- The number not below zero that a scalar writes, up to a limit. -/
def unsigned? (limit : Nat) (text : String) : Option Nat :=
  let number := match text.toList with
    | '+' :: rest => magnitude? rest
    | chars => magnitude? chars
  number.filter (· ≤ limit)

/-- The number that a scalar with a minus sign writes, without the sign. -/
def negative? (text : String) : Option Nat :=
  match text.toList with
  | '-' :: rest => magnitude? rest
  | _ => none

/-- A scalar without its sign. -/
def withoutSign : List Char → List Char
  | '+' :: rest => rest
  | '-' :: rest => rest
  | chars => chars

/-- Whether a scalar writes a finite number, an infinity or no number. -/
def isNumber (text : String) : Bool :=
  let positive := match text.toList with
    | '+' :: rest => rest
    | chars => chars
  let isSignedTwice := text.toList.head? == some '+' &&
    (positive.head? == some '+' || positive.head? == some '-')
  !isSignedTwice &&
    ([".inf", ".Inf", ".INF"].contains (String.ofList positive) ||
      ["-.inf", "-.Inf", "-.INF", ".nan", ".NaN", ".NAN"].contains text ||
      (Decimal.ofString? (String.ofList positive)).any Decimal.isFinite)

/-- What a plain scalar means. -/
inductive Meaning where
  | nothing
  | boolean (value : Bool)
  | natural (value : Nat)
  /-- A whole number with a minus sign, which may be zero. -/
  | negative (magnitude : Nat)
  /-- A whole number of more than 64 bits, which no definition can hold. -/
  | large
  | fraction
  | text
  deriving DecidableEq, Repr

/-- The whole number that a scalar writes. -/
def whole? (text : String) : Option Meaning :=
  match unsigned? (Nat.pow 2 128 - 1) text, negative? text with
  | some value, _ => some (if value ≤ Numeral.max64 then .natural value else .large)
  | none, some magnitude =>
    if magnitude ≤ Nat.pow 2 63 then some (.negative magnitude)
    else if magnitude ≤ Nat.pow 2 127 then some .large
    else none
  | none, none => none

/-- The first reading of a scalar that fits. -/
def meaning (text : String) : Meaning :=
  if text = "" ∨ isNothing text then .nothing
  else
    match boolean? text, whole? text with
    | some value, _ => .boolean value
    | none, some number => number
    | none, none =>
      if !hasLeadingZero (withoutSign text.toList) && isNumber text then .fraction else .text

end ContainerStack.Yaml.Plain
