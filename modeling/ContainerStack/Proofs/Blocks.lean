import ContainerStack.Proofs.Layout
import ContainerStack.Proofs.Scalars

/-!
**Blocks, read back.**

The rules of YAML 1.2 for nested lines. A line ends at a line feed or a carriage return. Its
indentation is the number of spaces before its first character; what is indented more belongs to
what stands above it. A dash with a blank after it opens an item, a scalar with a colon and a blank
after it is a key, and a number sign makes a comment of the rest of the line. The reader is a strict
one: continued lines, keys that are repeated, and parts of one block at different columns are
refused.

* `lineFrom?`: what a line adds to the parts that were read below it.
* `gather?`: the tree of the parts of one block.
* `read?`: the tree of a text.
* `linesFrom?`: the lines of a layout; `read?_layout`: it is what the reader makes of them.
-/

namespace ContainerStack.Yaml

namespace Reading

/-- What lines of a block hold. -/
inductive Part where
  | item (value : Tree)
  | entry (key : String) (value : Tree)
  | node (value : Tree)

/-- A part with the column at which it begins. -/
abbrev Placed := Nat × Part

/-! ### The tree of a block -/

/-- The values of parts that are items all of them. -/
def itemsOf? : List Part → Option (List Tree)
  | [] => some []
  | .item value :: rest => (itemsOf? rest).map (value :: ·)
  | _ => none

/-- The keys and values of parts that are entries all of them. -/
def entriesOf? : List Part → Option (List (String × Tree))
  | [] => some []
  | .entry key value :: rest => (entriesOf? rest).map ((key, value) :: ·)
  | _ => none

/-- The tree of parts: nothing, one node, items, or entries whose keys are distinct. -/
def treeOf? : List Part → Option Tree
  | [] => some .empty
  | [.node value] => some value
  | .item value :: rest => (itemsOf? rest).map fun others => .sequence (value :: others)
  | .entry key value :: rest => do
    let others ← entriesOf? rest
    if ((key, value) :: others).map Prod.fst |>.Nodup then
      some (.mapping ((key, value) :: others))
    else none
  | _ => none

/-- Whether parts begin at one column. -/
def aligned : List Placed → Bool
  | [] => true
  | first :: rest => rest.all fun other => other.1 == first.1

/-- The tree of the parts of one block. -/
def gather? (placed : List Placed) : Option Tree :=
  if aligned placed then treeOf? (placed.map Prod.snd) else none

/-- The parts that are indented more than a column, as far as they go. -/
def inside (column : Nat) (placed : List Placed) : List Placed :=
  placed.takeWhile fun part => column < part.1

/-- The parts after those. -/
def outside (column : Nat) (placed : List Placed) : List Placed :=
  placed.dropWhile fun part => column < part.1

/-! ### Lines -/

/-- Whether nothing but blanks or a comment is left of a line. -/
def endsHere (chars : List Char) : Bool :=
  atGap chars && (chars.dropWhile Source.isSpace).head?.all (· == '#')

/-- A key and what follows its colon: a scalar, or the block below. -/
def entryFrom? (column : Nat) (key : String) (rest : List Char) (below : List Placed) :
    Option (List Placed) :=
  if endsHere rest then
    (gather? (inside column below)).map fun value =>
      (column, .entry key value) :: outside column below
  else
    match scalarFrom? (rest.dropWhile Source.isSpace) with
    | none => none
    | some (value, after) =>
      if endsHere after && (inside column below).isEmpty then
        some ((column, .entry key value) :: below)
      else none

/-- A scalar, which may turn out to be a key. -/
def contentFrom? (column : Nat) (chars : List Char) (below : List Placed) :
    Option (List Placed) :=
  match scalarFrom? chars with
  | none => none
  | some (value, after) =>
    if endsHere after then some ((column, .node value) :: below)
    else
      match value, after.dropWhile Source.isSpace with
      | .text key, ':' :: rest => if atGap rest then entryFrom? column key rest below else none
      | _, _ => none

/-- An item, whose value is what is indented more than its dash. -/
def itemFrom? (column : Nat) (placed : List Placed) : Option (List Placed) :=
  (gather? (inside column placed)).map fun value => (column, .item value) :: outside column placed

/-- What a line adds to the parts below it, read from a column on. -/
def lineFrom? (column : Nat) : List Char → List Placed → Option (List Placed)
  | [], below => some below
  | char :: rest, below =>
    if char = ' ' then lineFrom? (column + 1) rest below
    else if char = '#' then some below
    else if char = '-' ∧ atGap rest = true then
      (lineFrom? (column + 1) rest below).bind (itemFrom? column)
    else contentFrom? column (char :: rest) below

/-- The parts of lines, read from the last line on. -/
def partsOf? (lines : List (List Char)) : Option (List Placed) :=
  lines.foldr (fun line below => below.bind (lineFrom? 0 line)) (some [])

/-- The tree of a text. -/
def read? (text : String) : Option Tree :=
  (partsOf? (text.toList.splitOnP endsLine)).bind gather?

/-! ### Lines of a layout -/

/-- The parts of the lines of a layout above others. -/
def linesFrom? (below : List Placed) : List Line → Option (List Placed)
  | [] => some below
  | line :: rest => (linesFrom? below rest).bind (lineFrom? (2 * line.depth) line.text.toList)

theorem linesFrom?_append (below : List Placed) (first second : List Line) :
    linesFrom? below (first ++ second) =
      (linesFrom? below second).bind fun middle => linesFrom? middle first := by
  induction first with
  | nil =>
    rw [List.nil_append]
    cases linesFrom? below second <;> rfl
  | cons line rest ih =>
    rw [List.cons_append, linesFrom?, ih, Option.bind_assoc]
    rfl

/-- Indentation moves the column. -/
theorem lineFrom?_spaces (count column : Nat) (chars : List Char) (below : List Placed) :
    lineFrom? column (List.replicate count ' ' ++ chars) below =
      lineFrom? (column + count) chars below := by
  induction count generalizing column with
  | zero => rfl
  | succ count ih =>
    rw [List.replicate_succ, List.cons_append, lineFrom?, if_pos rfl, ih]
    congr 1
    omega

theorem lineFrom?_written (line : Line) (below : List Placed) :
    lineFrom? 0 line.written.toList below = lineFrom? (2 * line.depth) line.text.toList below := by
  rw [Line.written, Emitter.indentation, String.toList_append, String.toList_ofList,
    lineFrom?_spaces, Nat.zero_add]

/-- **A text of whole lines is split into its lines**, with an empty one at the end. -/
theorem splitOnP_lines (lines : List String)
    (whole : ∀ line ∈ lines, onOneLine line.toList = true) :
    (String.join (lines.map (· ++ "\n"))).toList.splitOnP endsLine =
      lines.map String.toList ++ [[]] := by
  induction lines with
  | nil => rfl
  | cons line rest ih =>
    have free : ∀ char ∈ line.toList, endsLine char = false := by
      simpa [onOneLine] using whole line List.mem_cons_self
    have text : (String.join ((line :: rest).map (· ++ "\n"))).toList =
        line.toList ++ '\n' :: (String.join (rest.map (· ++ "\n"))).toList := by
      simp
    rw [text, List.splitOnP_append_cons_of_forall_mem free '\n' (by decide),
      ih fun other member => whole other (List.mem_cons_of_mem line member)]
    rfl

theorem onOneLine_written {line : Line} (whole : onOneLine line.text.toList = true) :
    onOneLine line.written.toList = true := by
  rw [Line.written, String.toList_append, onOneLine_append, whole, Bool.and_true,
    Emitter.indentation, String.toList_ofList, onOneLine]
  exact List.all_eq_true.mpr fun char member => by
    rw [List.eq_of_mem_replicate member]
    decide

theorem partsOf?_lines (lines : List Line) :
    partsOf? ((lines.map fun line => line.written.toList) ++ [[]]) = linesFrom? [] lines := by
  induction lines with
  | nil => rfl
  | cons line rest ih =>
    show (partsOf? ((rest.map fun line => line.written.toList) ++ [[]])).bind _ = _
    rw [ih, linesFrom?]
    congr 1
    exact funext fun below => lineFrom?_written line below

/-- **The reader reads the lines of a layout.** -/
theorem read?_layout (lines : List Line)
    (whole : ∀ line ∈ lines, onOneLine line.text.toList = true) :
    read? (String.join (lines.map fun line => line.written ++ "\n")) =
      (linesFrom? [] lines).bind gather? := by
  have split := splitOnP_lines (lines.map Line.written) fun text member => by
    obtain ⟨line, listed, rfl⟩ := List.mem_map.mp member
    exact onOneLine_written (whole line listed)
  rw [List.map_map, List.map_map] at split
  show (partsOf? (List.splitOnP endsLine _)).bind gather? = _
  rw [← partsOf?_lines]
  congr 2

example : read? "# note\nkey: a # b\nlist:\n  - \"x\\n\"\n  - [\"y: z\"]\n  - first: 1\n    more:\n" =
    some (.mapping
      [("key", .text "a"),
        ("list", .sequence [.text "x\n", .sequence [.text "y: z"],
          .mapping [("first", .text "1"), ("more", .empty)]])]) := rfl

end Reading

end ContainerStack.Yaml
