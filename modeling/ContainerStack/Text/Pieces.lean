/-!
**Cutting and searching text.**

Text is worked on as its list of characters.

* `pieces`: the parts between the occurrences of a separator.
* `holds`: whether a pattern occurs somewhere.
* `cutAt?`: the parts before and after the first separator.
* `after?`: what follows a beginning.
* `piecesOf_ne_nil`: there is always a piece.
-/

namespace ContainerStack.Text

/-- The parts of the text between the occurrences of a separator. -/
def piecesOf (separator : Char) : List Char → List (List Char)
  | [] => [[]]
  | char :: rest =>
    if char = separator then [] :: piecesOf separator rest
    else
      match piecesOf separator rest with
      | [] => [[char]]
      | piece :: others => (char :: piece) :: others

/-- The parts of a string between the occurrences of a separator. -/
def pieces (separator : Char) (text : String) : List String :=
  (piecesOf separator text.toList).map String.ofList

theorem piecesOf_ne_nil (separator : Char) (text : List Char) : piecesOf separator text ≠ [] := by
  cases text with
  | nil => simp [piecesOf]
  | cons char rest =>
    rw [piecesOf]
    split
    · simp
    · split <;> simp

/-- Whether a pattern occurs somewhere in the text. -/
def holdsIn (pattern : List Char) : List Char → Bool
  | [] => pattern.isEmpty
  | char :: rest => pattern.isPrefixOf (char :: rest) || holdsIn pattern rest

/-- Whether a pattern occurs somewhere in a string. -/
def holds (pattern text : String) : Bool := holdsIn pattern.toList text.toList

/-- The parts before and after the first separator. -/
def cutAt? (separator : Char) (text : String) : Option (String × String) :=
  let chars := text.toList
  match chars.dropWhile (· != separator) with
  | [] => none
  | _ :: after => some (String.ofList (chars.takeWhile (· != separator)), String.ofList after)

/-- The rest of the text after a beginning, if it begins so. -/
def after? (beginning text : String) : Option String :=
  (beginning.toList.isPrefixOf? text.toList).map String.ofList

end ContainerStack.Text
