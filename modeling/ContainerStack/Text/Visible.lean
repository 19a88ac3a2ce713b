import ContainerStack.Text.Unprintable

/-!
**Text made visible.**

A line that must be shown although it may hold line breaks is put in double quotes. The quote, the
backslash and the usual control characters get their short escapes, every other unprintable
character is written as its code point in lower-case hexadecimal between braces.
-/

namespace ContainerStack.Text

/-- A number in lower-case hexadecimal without leading zeros. -/
def hexText (number : Nat) : String := String.ofList (Nat.toDigits 16 number)

/-- One character of visible text. -/
def visibleChar (char : Char) : String :=
  if char = '"' then "\\\""
  else if char = '\\' then "\\\\"
  else if char = '\n' then "\\n"
  else if char = '\r' then "\\r"
  else if char = '\t' then "\\t"
  else if char.toNat = 0 then "\\0"
  else if isUnprintable char then "\\u\x7b" ++ hexText char.toNat ++ "\x7d"
  else String.singleton char

/-- Text in double quotes with everything unprintable escaped. -/
def visible (text : String) : String :=
  "\"" ++ String.join (text.toList.map visibleChar) ++ "\""

end ContainerStack.Text
