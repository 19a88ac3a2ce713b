import ContainerStack.Text.Json
import ContainerStack.Text.Pieces
import ContainerStack.Validation
import Mathlib.Data.List.Basic

/-!
**The lines of a text.**

* `Text.HasLines`: what a text is, cut at its line breaks.
* `Text.pieces_append_break`: a line break cuts a text in two, whatever stands on its sides.
* `Text.hasLines_join`, `Text.HasLines.intercalate`: the lines of texts that are put together.
* `Text.Unbroken`: text that stays on its line, and which checks make sure of it. `Text.IsToken`:
  text without blanks.
* `Text.indent`: how many spaces a text begins with. `Text.begins`, `Text.after?_eq_some`: how it
  begins.
-/

namespace ContainerStack.Text

/-! ### Cutting at line breaks -/

/-- A separator cuts a text in two. -/
theorem piecesOf_append_cons (separator : Char) (first second : List Char) :
    piecesOf separator (first ++ separator :: second) =
      piecesOf separator first ++ piecesOf separator second := by
  induction first with
  | nil =>
    show piecesOf separator (separator :: second) = [[]] ++ piecesOf separator second
    rw [piecesOf, if_pos rfl]
    rfl
  | cons char rest ih =>
    rw [List.cons_append, piecesOf, piecesOf, ih]
    split
    · rfl
    · cases cut : piecesOf separator rest with
      | nil => exact absurd cut (piecesOf_ne_nil separator rest)
      | cons piece others => rfl

theorem piecesOf_of_notMem {separator : Char} {text : List Char} (free : separator ∉ text) :
    piecesOf separator text = [text] := by
  induction text with
  | nil => rfl
  | cons char rest ih =>
    rw [List.mem_cons, not_or] at free
    rw [piecesOf, if_neg (Ne.symm free.1), ih free.2]

theorem pieces_append (separator : Char) (first second : String) :
    pieces separator (first ++ String.singleton separator ++ second) =
      pieces separator first ++ pieces separator second := by
  have chars : (first ++ String.singleton separator ++ second).toList =
      first.toList ++ separator :: second.toList := by simp
  rw [pieces, chars, piecesOf_append_cons, List.map_append]
  rfl

theorem pieces_of_notMem {separator : Char} {text : String} (free : separator ∉ text.toList) :
    pieces separator text = [text] := by
  rw [pieces, piecesOf_of_notMem free, List.map_singleton, String.ofList_toList]

/-- **A line break cuts a text in two**, whatever stands on its sides. -/
theorem pieces_append_break (first second : String) :
    pieces '\n' (first ++ "\n" ++ second) = pieces '\n' first ++ pieces '\n' second :=
  pieces_append '\n' first second

/-- Cut at its line breaks, a text is some lines and nothing after the end of the last one. -/
def HasLines (text : String) (lines : List String) : Prop := pieces '\n' text = lines ++ [""]

/-- **Texts that are put together, each with the end of its line**, have the lines of each. -/
theorem hasLines_join (texts : List String) :
    HasLines (String.join (texts.map (· ++ "\n"))) (texts.flatMap (pieces '\n')) := by
  unfold HasLines
  induction texts with
  | nil => rfl
  | cons text rest ih =>
    rw [List.map_cons, String.join_cons, pieces_append_break, ih, List.flatMap_cons,
      List.append_assoc]

/-- A line above a text. -/
theorem HasLines.cons {line text : String} {lines : List String}
    (single : pieces '\n' line = [line]) (has : HasLines text lines) :
    HasLines (line ++ "\n" ++ text) (line :: lines) := by
  unfold HasLines at has ⊢
  rw [pieces_append_break, single, has]
  rfl

/-- **Texts with a line break between them** have an empty line between the lines of each. -/
theorem HasLines.intercalate {texts : List String} {lines : List (List String)}
    (each : List.Forall₂ HasLines texts lines) (nonempty : texts ≠ []) :
    HasLines (String.intercalate "\n" texts) (List.intercalate [""] lines) := by
  induction each with
  | nil => exact absurd rfl nonempty
  | @cons text own others rest here later ih =>
    cases later with
    | nil => simpa [String.intercalate_singleton, List.intercalate_singleton] using here
    | @cons next _ others rest _ _ =>
      have below := ih (List.cons_ne_nil _ _)
      unfold HasLines at here below ⊢
      rw [String.intercalate_cons_cons, pieces_append_break, here, below,
        List.intercalate_cons_cons]
      simp

/-! ### Text that stays on its line -/

/-- The text holds no line break. -/
def Unbroken (text : String) : Prop := '\n' ∉ text.toList

instance (text : String) : Decidable (Unbroken text) := inferInstanceAs (Decidable (_ ∉ _))

theorem pieces_of_unbroken {text : String} (unbroken : Unbroken text) :
    pieces '\n' text = [text] := pieces_of_notMem unbroken

/-- Lines that hold no line break of their own are the lines of what is put together of them. -/
theorem hasLines_of_unbroken {lines : List String} (each : ∀ line ∈ lines, Unbroken line) :
    HasLines (String.join (lines.map (· ++ "\n"))) lines := by
  have alone : lines.flatMap (pieces '\n') = lines := by
    rw [List.flatMap_congr fun line member => pieces_of_unbroken (each line member)]
    exact List.flatMap_singleton' lines
  have joined := hasLines_join lines
  rwa [alone] at joined

@[simp] theorem unbroken_append {first second : String} :
    Unbroken (first ++ second) ↔ Unbroken first ∧ Unbroken second := by
  simp [Unbroken, not_or]

theorem unbroken_join {texts : List String} (each : ∀ text ∈ texts, Unbroken text) :
    Unbroken (String.join texts) := by
  induction texts with
  | nil => decide
  | cons text rest ih =>
    rw [String.join_cons, unbroken_append]
    exact ⟨each text List.mem_cons_self, ih fun other member =>
      each other (List.mem_cons_of_mem text member)⟩

theorem unbroken_intercalate {separator : String} (unbroken : Unbroken separator)
    {texts : List String} (each : ∀ text ∈ texts, Unbroken text) :
    Unbroken (String.intercalate separator texts) := by
  induction texts with
  | nil => simp [Unbroken]
  | cons text rest ih =>
    have later := ih fun other member => each other (List.mem_cons_of_mem text member)
    have here := each text List.mem_cons_self
    cases rest with
    | nil => simpa using here
    | cons next others =>
      rw [String.intercalate_cons_cons, unbroken_append, unbroken_append]
      exact ⟨⟨here, unbroken⟩, later⟩

theorem unbroken_of_noControl {text : String} (plain : hasControl text = false) :
    Unbroken text := by
  intro broken
  have control : hasControl text = true := List.any_eq_true.mpr ⟨'\n', broken, by decide⟩
  rw [plain] at control
  cases control

theorem notMem_of_noBlank {text : String} (plain : hasBlank text = false) {char : Char}
    (blank : isBlank char = true) : char ∉ text.toList := fun there =>
  List.any_eq_false.mp plain char there blank

theorem unbroken_of_noBlank {text : String} (plain : hasBlank text = false) : Unbroken text :=
  notMem_of_noBlank plain (by decide)

/-- The text is not empty and holds no blank. -/
def IsToken (text : String) : Prop := text ≠ "" ∧ hasBlank text = false

theorem IsToken.unbroken {text : String} (token : IsToken text) : Unbroken text :=
  unbroken_of_noBlank token.2

/-- What the classes of a shape leave out is not in the text. -/
theorem notMem_of_shape {text : String} {first rest : Char → Bool} {char : Char}
    (shaped : hasShape first rest text = true) (firstLacks : first char = false)
    (restLacks : rest char = false) : char ∉ text.toList := by
  intro there
  unfold hasShape at shaped
  split at shaped
  · cases shaped
  · rename_i head others chars
    rw [chars] at there
    rw [Bool.and_eq_true] at shaped
    rcases List.mem_cons.mp there with rfl | later
    · rw [firstLacks] at shaped
      cases shaped.1
    · rw [List.all_eq_true.mp shaped.2 char later] at restLacks
      cases restLacks

/-- **Names of all kinds stay on their line.** -/
theorem unbroken_of_shape {text : String} {first rest : Char → Bool}
    (shaped : hasShape first rest text = true) (firstLacks : first '\n' = false)
    (restLacks : rest '\n' = false) : Unbroken text :=
  notMem_of_shape shaped firstLacks restLacks

theorem unbroken_toString (number : Nat) : Unbroken (toString number) := by
  intro broken
  rw [Nat.toString_eq_ofList_toDigits, String.toList_ofList] at broken
  have digit := Nat.isDigit_of_mem_toDigits (by decide) (by decide) broken
  cases digit

theorem Json.unbroken_escape : ∀ code < 0x20, Unbroken
    ("\\u00" ++ String.ofList [Nat.digitChar (code / 16), Nat.digitChar (code % 16)]) := by
  decide

theorem Json.unbroken_quoteChar (char : Char) : Unbroken (Json.quoteChar char) := by
  unfold Json.quoteChar
  split
  · decide
  split
  · decide
  split
  · decide
  split
  · decide
  split
  · decide
  rename_i differs
  split
  · decide
  split
  · decide
  split
  · rename_i below
    exact unbroken_escape _ below
  · intro broken
    rw [String.toList_singleton, List.mem_singleton] at broken
    exact differs broken.symm

/-- **A list of quoted strings stays on its line**, whatever it holds. -/
theorem Json.unbroken_array (items : List String) : Unbroken (Json.array items) := by
  have quoted (text : String) : Unbroken (Json.quote text) := by
    have body : Unbroken (String.join (text.toList.map Json.quoteChar)) := by
      refine unbroken_join fun quoted member => ?_
      obtain ⟨char, _, rfl⟩ := List.mem_map.mp member
      exact unbroken_quoteChar char
    unfold Json.quote
    rw [unbroken_append, unbroken_append]
    exact ⟨⟨by decide, body⟩, by decide⟩
  have inner : Unbroken (String.intercalate "," (items.map Json.quote)) := by
    refine unbroken_intercalate (by decide) fun written member => ?_
    obtain ⟨item, _, rfl⟩ := List.mem_map.mp member
    exact quoted item
  unfold Json.array
  rw [unbroken_append, unbroken_append]
  exact ⟨⟨by decide, inner⟩, by decide⟩

/-! ### Indentation -/

/-- The number of spaces that a text begins with. -/
def indent (text : String) : Nat := (text.toList.takeWhile (· == ' ')).length

theorem indent_spaces (count : Nat) (text : String) :
    indent (String.ofList (List.replicate count ' ') ++ text) = count + indent text := by
  have spaces : ∀ char ∈ List.replicate count ' ', (char == ' ') = true := by
    intro char member
    rw [(List.mem_replicate.mp member).2]
    rfl
  rw [indent, String.toList_append, String.toList_ofList, List.takeWhile_append_of_pos spaces,
    List.length_append, List.length_replicate]
  rfl

/-- Text that begins with another character than a space is not indented. -/
theorem indent_append {first : String} (flush : first.toList.head?.any (· != ' ') = true)
    (second : String) : indent (first ++ second) = 0 := by
  rw [indent, String.toList_append]
  cases chars : first.toList with
  | nil =>
    rw [chars] at flush
    cases flush
  | cons char rest =>
    rw [chars] at flush
    have notSpace : char ≠ ' ' := by simpa using flush
    simp [notSpace]

/-! ### How a text begins -/

/-- Whether a text begins with another one. -/
def begins (beginning text : String) : Bool := beginning.toList.isPrefixOf text.toList

theorem begins_iff {beginning text : String} :
    begins beginning text = true ↔ ∃ rest, text = beginning ++ rest := by
  rw [begins, List.isPrefixOf_iff_prefix]
  constructor
  · rintro ⟨rest, chars⟩
    refine ⟨String.ofList rest, ?_⟩
    rw [← String.toList_inj, String.toList_append, String.toList_ofList, chars]
  · rintro ⟨rest, rfl⟩
    exact ⟨rest.toList, String.toList_append.symm⟩

theorem begins_append (beginning rest : String) : begins beginning (beginning ++ rest) = true :=
  begins_iff.mpr ⟨rest, rfl⟩

theorem begins_of_append {beginning first : String} (here : begins beginning first = true)
    (rest : String) : begins beginning (first ++ rest) = true := by
  obtain ⟨others, rfl⟩ := begins_iff.mp here
  rw [String.append_assoc]
  exact begins_append beginning _

/-- What begins with text that is not empty is not empty either. -/
theorem ne_empty_of_begins {beginning text : String} (here : begins beginning text = true)
    (nonempty : beginning ≠ "") : text ≠ "" := by
  obtain ⟨rest, rfl⟩ := begins_iff.mp here
  intro empty
  exact nonempty (String.append_eq_empty_iff.mp empty).1

/-- Of two beginnings of one text, one begins with the other. -/
theorem begins_or_begins {first second text : String} (one : begins first text = true)
    (two : begins second text = true) :
    begins first second = true ∨ begins second first = true := by
  rw [begins, List.isPrefixOf_iff_prefix] at one two
  rw [begins, begins, List.isPrefixOf_iff_prefix, List.isPrefixOf_iff_prefix]
  exact List.prefix_or_prefix_of_prefix one two

theorem after?_eq_some {beginning text rest : String} :
    after? beginning text = some rest ↔ text = beginning ++ rest := by
  rw [after?, Option.map_eq_some_iff]
  constructor
  · rintro ⟨chars, left, rfl⟩
    rw [← String.toList_inj, String.toList_append, String.toList_ofList,
      List.isPrefixOf?_eq_some_iff_append_eq.mp left]
  · rintro rfl
    exact ⟨rest.toList, List.isPrefixOf?_eq_some_iff_append_eq.mpr String.toList_append.symm,
      String.ofList_toList⟩

end ContainerStack.Text
