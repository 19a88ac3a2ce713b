/-!
**Blank characters and blank text.**

A character is blank if it has the Unicode property `White_Space` (25 characters), and a control
character if its general category is `Cc`. Text is blank if it holds blank characters only; the
empty text is blank.
-/

namespace ContainerStack.Text

/-- The characters with the property `White_Space`. -/
def isBlank (char : Char) : Bool :=
  let code := char.toNat
  (0x09 ≤ code && code ≤ 0x0D) || code == 0x20 || code == 0x85 || code == 0xA0 || code == 0x1680 ||
    (0x2000 ≤ code && code ≤ 0x200A) || code == 0x2028 || code == 0x2029 || code == 0x202F ||
    code == 0x205F || code == 0x3000

/-- The characters of general category `Cc`. -/
def isControl (char : Char) : Bool :=
  let code := char.toNat
  code < 0x20 || (0x7F ≤ code && code ≤ 0x9F)

/-- Whether text holds blank characters only. -/
def isBlankText (text : String) : Bool := text.toList.all isBlank

/-- Whether text begins or ends with a blank character. -/
def hasOuterBlank (text : String) : Bool :=
  text.toList.head?.any isBlank || text.toList.getLast?.any isBlank

/-- Whether text holds a blank character anywhere. -/
def hasBlank (text : String) : Bool := text.toList.any isBlank

/-- Whether text holds a control character anywhere. -/
def hasControl (text : String) : Bool := text.toList.any isControl

end ContainerStack.Text
