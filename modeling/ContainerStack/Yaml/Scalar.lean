import ContainerStack.Decimal
import ContainerStack.Text.Blank
import ContainerStack.Text.Pieces

/-!
**Strings as YAML scalars.**

A string is written as it is where a reader of YAML would take it for that string, and between
double quotes otherwise.

* `Scalar.quote`: the double-quoted form.
* `Scalar.needsQuotes`: when the plain form would be read as something else.
* `Scalar.write`: the shorter form that is safe.
* `Scalar.flowList`: a list of double-quoted strings on one line.
-/

namespace ContainerStack.Yaml.Scalar

/-- A number below 256 in two upper-case hexadecimal digits. -/
def hexPair (number : Nat) : String :=
  String.ofList [(Nat.digitChar (number / 16)).toUpper, (Nat.digitChar (number % 16)).toUpper]

/-- One character between double quotes. -/
def quoteChar (char : Char) : String :=
  if char = '"' then "\\\""
  else if char = '\\' then "\\\\"
  else if char = '\n' then "\\n"
  else if char = '\r' then "\\r"
  else if char = '\t' then "\\t"
  else if Text.isControl char then "\\x" ++ hexPair char.toNat
  else String.singleton char

/-- The double-quoted form of a string. -/
def quote (value : String) : String :=
  "\"" ++ String.join (value.toList.map quoteChar) ++ "\""

/-- The words that readers of YAML take for truth values or nothing, in any case. -/
def reservedWords : List String :=
  ["true", "false", "yes", "no", "on", "off", "y", "n", "null", "~"]

/-- The characters of numbers, times and ranges of ports. -/
def isNumeric (char : Char) : Bool :=
  Numeral.isDigit char || char == '.' || char == ':' || char == '_' || char == '+' || char == '-'

/-- The characters that mean something to YAML at the beginning of a scalar. -/
def isIndicator (char : Char) : Bool :=
  ['-', '?', ':', ',', '[', ']', '\x7b', '\x7d', '#', '&', '*', '!', '|', '>', '\x27', '"', '%',
    '@', '\x60'].contains char

/-- Whether a string would be read as something else without quotes: it is empty, has outer blanks,
is a reserved word or a number, begins with an indicator, would end early or become a key, or holds
a control character. -/
def needsQuotes (value : String) : Bool :=
  value == "" || Text.hasOuterBlank value ||
    reservedWords.contains (String.ofList (value.toList.map Char.toLower)) ||
    (Decimal.ofString? value).isSome || value.toList.all isNumeric ||
    value.toList.head?.any isIndicator ||
    Text.holds ": " value || Text.holds " #" value || value.toList.getLast? == some ':' ||
    Text.hasControl value

/-- The string as it is if that is safe, and its double-quoted form otherwise. -/
def write (value : String) : String := if needsQuotes value then quote value else value

/-- The strings in double quotes, between brackets and with commas. -/
def flowList (items : List String) : String :=
  "[" ++ String.intercalate ", " (items.map quote) ++ "]"

end ContainerStack.Yaml.Scalar
