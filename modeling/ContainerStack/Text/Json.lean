/-!
**Strings and lists of strings as JSON.**

Quotes, backslashes and characters below the space are escaped, the usual ones by a letter and the
others by four lower-case hexadecimal digits. All else stands as it is. A list is written without
blanks.
-/

namespace ContainerStack.Text.Json

/-- One character of a JSON string. -/
def quoteChar (char : Char) : String :=
  if char = '"' then "\\\""
  else if char = '\\' then "\\\\"
  else if char = '\x08' then "\\b"
  else if char = '\x0c' then "\\f"
  else if char = '\n' then "\\n"
  else if char = '\r' then "\\r"
  else if char = '\t' then "\\t"
  else if char.toNat < 0x20 then
    "\\u00" ++ String.ofList [Nat.digitChar (char.toNat / 16), Nat.digitChar (char.toNat % 16)]
  else String.singleton char

/-- A string in quotes. -/
def quote (text : String) : String := "\"" ++ String.join (text.toList.map quoteChar) ++ "\""

/-- A list of strings. -/
def array (items : List String) : String :=
  "[" ++ String.intercalate "," (items.map quote) ++ "]"

end ContainerStack.Text.Json
