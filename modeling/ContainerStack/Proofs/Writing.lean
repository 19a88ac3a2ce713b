import ContainerStack.Proofs.Blocks

/-!
**Steps and the trees that they write.**

* `Reads`: at every depth, the lines of some steps are read as some parts, whatever less indented
  lines follow.
* `Reads.scalar`, `Reads.block`, `Reads.itemBlock`, …: one lemma for each kind of step, from the
  parts of its body to its own.
* `Reads.read?_render`: a document of such steps is rendered, and read as the tree of its parts.
-/

namespace ContainerStack.Yaml

namespace Reading

/-! ### One line -/

section Lines

variable {column : Nat} {below : List Placed}

/-- What begins with a scalar is neither indentation nor a comment nor an item. -/
theorem begins_of_scalar {char : Char} {rest after : List Char} {value : Tree}
    (read : scalarFrom? (char :: rest) = some (value, after)) :
    char ≠ ' ' ∧ char ≠ '#' ∧ ¬(char = '-' ∧ atGap rest = true) := by
  refine ⟨?_, ?_, ?_⟩
  · rintro rfl
    cases read
  · rintro rfl
    cases read
  · rintro ⟨rfl, gap⟩
    simp [scalarFrom?, mayBeginPlain, gap] at read

theorem lineFrom?_content {chars after : List Char} {value : Tree}
    (read : scalarFrom? chars = some (value, after)) :
    lineFrom? column chars below = contentFrom? column chars below := by
  cases chars with
  | nil => cases read
  | cons char rest =>
    have begins := begins_of_scalar read
    rw [lineFrom?, if_neg begins.1, if_neg begins.2.1, if_neg begins.2.2]

/-- The written form of a key is read as the key, up to its colon. -/
def KeyOf (written : List Char) (key : String) : Prop :=
  ∀ rest, atGap rest = true → scalarFrom? (written ++ ':' :: rest) = some (.text key, ':' :: rest)

theorem keyOf_plain {key : String} (plain : Plain key.toList) : KeyOf key.toList key := by
  intro rest gap
  rw [scalarFrom?_plain plain (.inr ⟨rest, rfl, gap⟩), String.ofList_toList]

theorem keyOf_write (key : String) : KeyOf (Scalar.write key).toList key :=
  fun rest gap => scalarFrom?_write key (.inr ⟨rest, rfl, gap⟩)

theorem lineFrom?_keyOf {written rest : List Char} {key : String} (keyOf : KeyOf written key)
    (gap : atGap rest = true) :
    lineFrom? column (written ++ ':' :: rest) below = entryFrom? column key rest below := by
  have read := keyOf rest gap
  have goesOn : endsHere (':' :: rest) = false := rfl
  have stays : (':' :: rest).dropWhile Source.isSpace = ':' :: rest := rfl
  rw [lineFrom?_content read, contentFrom?, read]
  simp only [goesOn, stays, gap, Bool.false_eq_true, if_false, if_true]

/-- A key with nothing after it has the block below as its value. -/
theorem lineFrom?_key {written : List Char} {key : String} (keyOf : KeyOf written key) :
    lineFrom? column (written ++ [':']) below =
      (gather? (inside column below)).map fun value =>
        (column, .entry key value) :: outside column below := by
  rw [lineFrom?_keyOf keyOf rfl]
  rfl

/-- What begins with a scalar begins with no blank and no comment. -/
theorem notGap_of_scalar {chars after : List Char} {value : Tree}
    (read : scalarFrom? chars = some (value, after)) :
    chars.dropWhile Source.isSpace = chars ∧ chars.head?.all (· == '#') = false := by
  cases chars with
  | nil => cases read
  | cons char rest =>
    have notSpace : Source.isSpace char = false := by
      cases space : Source.isSpace char with
      | false => rfl
      | true => rcases isSpace_iff.mp space with rfl | rfl <;> cases read
    have notSign : char ≠ '#' := by
      rintro rfl
      cases read
    exact ⟨List.dropWhile_cons_of_neg (by simp [notSpace]), by simp [notSign]⟩

/-- **A key with a scalar after it** is an entry, unless something is indented under it. -/
theorem lineFrom?_entry {written chars : List Char} {key : String} {value : Tree}
    (keyOf : KeyOf written key) (read : scalarFrom? chars = some (value, []))
    (nothing : inside column below = []) :
    lineFrom? column (written ++ ':' :: ' ' :: chars) below =
      some ((column, .entry key value) :: below) := by
  obtain ⟨same, notSign⟩ := notGap_of_scalar read
  have dropped : (' ' :: chars).dropWhile Source.isSpace = chars := by
    rw [List.dropWhile_cons_of_pos (by decide), same]
  rw [lineFrom?_keyOf keyOf rfl, entryFrom?, endsHere, dropped, notSign]
  simp [read, nothing, endsHere, atGap]

/-- **A scalar alone** is a node. -/
theorem lineFrom?_node {chars : List Char} {value : Tree}
    (read : scalarFrom? chars = some (value, [])) :
    lineFrom? column chars below = some ((column, .node value) :: below) := by
  rw [lineFrom?_content read, contentFrom?, read]
  rfl

/-- **A dash** makes an item of what stands behind it and below. -/
theorem lineFrom?_item (chars : List Char) :
    lineFrom? column ('-' :: ' ' :: chars) below =
      (lineFrom? (column + 2) chars below).bind (itemFrom? column) := by
  rw [lineFrom?, if_neg (by decide), if_neg (by decide), if_pos ⟨rfl, rfl⟩, lineFrom?, if_pos rfl]

end Lines

/-! ### Parts of a block -/

/-- Parts at one column. -/
def placed (column : Nat) (parts : List Part) : List Placed := parts.map fun part => (column, part)

/-- Nothing that follows is indented more than a column. -/
def Follow (column : Nat) (below : List Placed) : Prop := inside column below = []

theorem follow_nil (column : Nat) : Follow column [] := rfl

theorem Follow.mono {first second : Nat} {below : List Placed} (follow : Follow first below)
    (less : first ≤ second) : Follow second below := by
  cases below with
  | nil => rfl
  | cons part rest =>
    by_cases deeper : first < part.1
    · simp [Follow, inside, deeper] at follow
    · have shallower : ¬ second < part.1 := by omega
      simp [Follow, inside, shallower]

theorem outside_of_follow {column : Nat} {below : List Placed} (follow : Follow column below) :
    outside column below = below := by
  cases below with
  | nil => rfl
  | cons part rest =>
    by_cases deeper : column < part.1
    · simp [Follow, inside, deeper] at follow
    · simp [outside, deeper]

theorem follow_placed (column : Nat) (parts : List Part) {below : List Placed}
    (follow : Follow column below) : Follow column (placed column parts ++ below) := by
  cases parts with
  | nil => exact follow
  | cons part rest => simp [Follow, inside, placed]

section Bodies

variable {column : Nat} {parts : List Part} {below : List Placed}

theorem inside_placed (follow : Follow column below) :
    inside column (placed (column + 2) parts ++ below) = placed (column + 2) parts := by
  induction parts with
  | nil => exact follow
  | cons part rest ih =>
    show inside column ((column + 2, part) :: (placed (column + 2) rest ++ below)) = _
    rw [inside, List.takeWhile_cons_of_pos (by simp)]
    exact congrArg _ ih

theorem outside_placed (follow : Follow column below) :
    outside column (placed (column + 2) parts ++ below) = below := by
  induction parts with
  | nil => exact outside_of_follow follow
  | cons part rest ih =>
    show outside column ((column + 2, part) :: (placed (column + 2) rest ++ below)) = _
    rw [outside, List.dropWhile_cons_of_pos (by simp)]
    exact ih

theorem gather?_placed : gather? (placed column parts) = treeOf? parts := by
  have sameColumn : aligned (placed column parts) = true := by
    cases parts with
    | nil => rfl
    | cons part rest => simp [placed, aligned]
  rw [gather?, if_pos sameColumn, placed, List.map_map]
  simp [Function.comp_def]

/-- **A dash with a scalar after it** is an item. -/
theorem lineFrom?_scalarItem {chars : List Char} {value : Tree}
    (read : scalarFrom? chars = some (value, [])) (follow : Follow column below) :
    lineFrom? column ('-' :: ' ' :: chars) below = some ((column, .item value) :: below) := by
  have node : lineFrom? (column + 2) chars below =
      some (placed (column + 2) [.node value] ++ below) := lineFrom?_node read
  rw [lineFrom?_item, node]
  show itemFrom? column (placed (column + 2) [.node value] ++ below) = _
  rw [itemFrom?, inside_placed follow, outside_placed follow, gather?_placed]
  rfl

end Bodies

/-! ### Trees of parts -/

theorem itemsOf?_items (values : List Tree) : itemsOf? (values.map .item) = some values := by
  induction values with
  | nil => rfl
  | cons value rest ih => simp [itemsOf?, ih]

theorem entriesOf?_entries (entries : List (String × Tree)) :
    entriesOf? (entries.map fun entry => .entry entry.1 entry.2) = some entries := by
  induction entries with
  | nil => rfl
  | cons entry rest ih => simp [entriesOf?, ih]

end Reading

/-- The list of some items, if there is one. -/
def Tree.list? (items : List Tree) : Option Tree :=
  if items.isEmpty then none else some (.sequence items)

/-- The map of some entries, if there is one. -/
def Tree.record? (entries : List (String × Tree)) : Option Tree :=
  if entries.isEmpty then none else some (.mapping entries)

namespace Reading

theorem treeOf?_items (values : List Tree) :
    treeOf? (values.map .item) = some ((Tree.list? values).getD .empty) := by
  cases values with
  | nil => rfl
  | cons value rest => simp [treeOf?, itemsOf?_items, Tree.list?]

theorem treeOf?_entries {entries : List (String × Tree)}
    (distinct : (entries.map Prod.fst).Nodup) :
    treeOf? (entries.map fun entry => .entry entry.1 entry.2) =
      some ((Tree.record? entries).getD .empty) := by
  cases entries with
  | nil => rfl
  | cons entry rest =>
    rw [List.map_cons, treeOf?, entriesOf?_entries]
    show (if ((entry :: rest).map Prod.fst).Nodup then some (Tree.mapping (entry :: rest))
      else none) = _
    rw [if_pos distinct]
    rfl

/-! ### Layouts that are read -/

/-- At every depth the layout is written to its end, on whole lines that are not less deep, and is
read as some parts, whatever less indented lines follow. -/
structure ReadAs (layout : Nat → Layout) (parts : List Part) : Prop where
  succeeds : ∀ depth, (layout depth).outcome = .ok ()
  whole : ∀ depth, ∀ line ∈ (layout depth).lines, onOneLine line.text.toList = true
  deep : ∀ depth, ∀ line ∈ (layout depth).lines, depth ≤ line.depth
  read : ∀ depth below, Follow (2 * depth) below →
    linesFrom? below (layout depth).lines = some (placed (2 * depth) parts ++ below)

namespace ReadAs

variable {first second layout : Nat → Layout} {parts more : List Part}

theorem empty : ReadAs (fun _ => Layout.empty) [] :=
  ⟨fun _ => rfl, nofun, nofun, fun _ _ _ => rfl⟩

theorem append (one : ReadAs first parts) (two : ReadAs second more) :
    ReadAs (fun depth => (first depth).append (second depth)) (parts ++ more) := by
  have lines : ∀ depth, (first depth).append (second depth) =
      ⟨(first depth).lines ++ (second depth).lines, (second depth).outcome⟩ := by
    intro depth
    rw [Layout.append, one.succeeds depth]
  constructor
  · intro depth
    rw [lines]
    exact two.succeeds depth
  · intro depth line member
    rw [lines] at member
    exact (List.mem_append.mp member).elim (one.whole depth line) (two.whole depth line)
  · intro depth line member
    rw [lines] at member
    exact (List.mem_append.mp member).elim (one.deep depth line) (two.deep depth line)
  · intro depth below follow
    rw [lines, linesFrom?_append, two.read depth below follow]
    show linesFrom? (placed (2 * depth) more ++ below) (first depth).lines = _
    rw [one.read depth _ (follow_placed _ more follow), placed, placed, placed, List.map_append,
      List.append_assoc]

/-- One line is read as it is read alone. -/
theorem line {text : String} (whole : onOneLine text.toList = true)
    (read : ∀ column below, Follow column below →
      lineFrom? column text.toList below = some (placed column parts ++ below)) :
    ReadAs (fun depth => Layout.single ⟨depth, text⟩) parts := by
  refine ⟨fun _ => rfl, fun depth line member => ?_, fun depth line member => ?_,
    fun depth below follow => ?_⟩
  · rw [List.mem_singleton.mp member]
    exact whole
  · cases List.mem_singleton.mp member
    exact Nat.le_refl depth
  · exact read (2 * depth) below follow

/-- **A key above a deeper layout** is an entry whose value is the tree of the layout. -/
theorem block {written : String} {key : String} {value : Tree}
    (keyOf : KeyOf written.toList key) (whole : onOneLine written.toList = true)
    (body : ReadAs layout parts) (tree : treeOf? parts = some value) :
    ReadAs (fun depth => (Layout.single ⟨depth, written ++ ":"⟩).append (layout (depth + 1)))
      [.entry key value] := by
  refine ⟨fun depth => body.succeeds (depth + 1), fun depth line member => ?_,
    fun depth line member => ?_, fun depth below follow => ?_⟩
  · rcases List.mem_cons.mp member with rfl | inner
    · show onOneLine (written ++ ":").toList = true
      rw [String.toList_append, onOneLine_append, whole]
      decide
    · exact body.whole (depth + 1) line inner
  · rcases List.mem_cons.mp member with rfl | inner
    · exact Nat.le_refl depth
    · exact Nat.le_of_succ_le (body.deep (depth + 1) line inner)
  · show (linesFrom? below (layout (depth + 1)).lines).bind
      (lineFrom? (2 * depth) (written ++ ":").toList) = _
    rw [body.read (depth + 1) below (follow.mono (by omega))]
    show lineFrom? (2 * depth) (written ++ ":").toList
      (placed (2 * depth + 2) parts ++ below) = _
    rw [String.toList_append]
    show lineFrom? (2 * depth) (written.toList ++ [':']) _ = _
    rw [lineFrom?_key keyOf, inside_placed follow, outside_placed follow, gather?_placed, tree]
    rfl

/-- **A deeper layout whose first line carries the marker** is an item whose value is the tree of
the layout. -/
theorem opened {value : Tree} (body : ReadAs layout parts) (tree : treeOf? parts = some value)
    (begins : ∀ depth, ∃ text rest, (layout depth).lines = ⟨depth, text⟩ :: rest) :
    ReadAs (fun depth =>
      ⟨Layout.opened (layout (depth + 1)).lines, (layout (depth + 1)).outcome⟩) [.item value] := by
  refine ⟨fun depth => body.succeeds (depth + 1), fun depth line member => ?_,
    fun depth line member => ?_, fun depth below follow => ?_⟩
  · obtain ⟨text, rest, lines⟩ := begins (depth + 1)
    have whole := body.whole (depth + 1)
    rw [lines] at member whole
    rcases List.mem_cons.mp member with rfl | later
    · show onOneLine ("- " ++ text).toList = true
      rw [String.toList_append, onOneLine_append, whole _ List.mem_cons_self]
      decide
    · exact whole line (List.mem_cons_of_mem _ later)
  · obtain ⟨text, rest, lines⟩ := begins (depth + 1)
    have deep := body.deep (depth + 1)
    rw [lines] at member deep
    rcases List.mem_cons.mp member with rfl | later
    · exact Nat.le_refl depth
    · exact Nat.le_of_succ_le (deep line (List.mem_cons_of_mem _ later))
  · obtain ⟨text, rest, lines⟩ := begins (depth + 1)
    have read := body.read (depth + 1) below (follow.mono (by omega))
    rw [lines] at read
    rw [lines]
    show (linesFrom? below rest).bind (lineFrom? (2 * depth) ("- " ++ text).toList) = _
    cases later : linesFrom? below rest with
    | none =>
      rw [linesFrom?, later] at read
      cases read
    | some middle =>
      rw [linesFrom?, later] at read
      have head : lineFrom? (2 * depth + 2) text.toList middle =
        some (placed (2 * depth + 2) parts ++ below) := read
      rw [String.toList_append]
      show lineFrom? (2 * depth) ('-' :: ' ' :: text.toList) middle = _
      rw [lineFrom?_item, head]
      show itemFrom? (2 * depth) (placed (2 * depth + 2) parts ++ below) = _
      rw [itemFrom?, inside_placed follow, outside_placed follow, gather?_placed, tree]
      rfl

end ReadAs

/-! ### Scalars alone -/

/-- The text stays on its line and is read as a scalar. -/
structure IsScalar (written : String) (value : Tree) : Prop where
  whole : onOneLine written.toList = true
  read : scalarFrom? written.toList = some (value, [])

namespace IsScalar

theorem of_read {written : String} {value : Tree} (whole : onOneLine written.toList = true)
    (read : ∀ rest, Follows rest → scalarFrom? (written.toList ++ rest) = some (value, rest)) :
    IsScalar written value := by
  have alone := read [] (.inl rfl)
  rw [List.append_nil] at alone
  exact ⟨whole, alone⟩

theorem write (value : String) : IsScalar (Scalar.write value) (.text value) :=
  of_read (onOneLine_write value) fun _ => scalarFrom?_write value

theorem quote (value : String) : IsScalar (Scalar.quote value) (.text value) :=
  of_read (onOneLine_quote value) fun rest _ => scalarFrom?_quote value rest

theorem word {value : String} (plain : Plain value.toList) : IsScalar value (.text value) :=
  of_read plain.1 fun rest follows => by
    rw [scalarFrom?_plain plain follows, String.ofList_toList]

theorem flowList (words : List String) :
    IsScalar (Scalar.flowList words) (.sequence (words.map .text)) :=
  of_read (onOneLine_flowList words) fun rest _ => scalarFrom?_flowList words rest

end IsScalar

/-! ### Steps that are read -/

open Step (layoutAll)

/-- The steps are nested, and their lines are read as some parts at every depth. -/
structure Reads (steps : List Step) (parts : List Part) : Prop where
  nested : Step.NestedAll steps
  readAs : ReadAs (fun depth => layoutAll depth steps) parts

theorem nestedAll_append {first second : List Step} (one : Step.NestedAll first)
    (two : Step.NestedAll second) : Step.NestedAll (first ++ second) := by
  induction first with
  | nil => exact two
  | cons step rest ih => exact ⟨one.1, ih one.2⟩

theorem layoutAll_append (depth : Nat) (first second : List Step) :
    layoutAll depth (first ++ second) =
      (layoutAll depth first).append (layoutAll depth second) := by
  induction first with
  | nil => rfl
  | cons step rest ih =>
    rw [List.cons_append, layoutAll, layoutAll, ih, Layout.append_assoc]

theorem layoutAll_singleton (depth : Nat) (step : Step) :
    layoutAll depth [step] = step.layout depth := by
  rw [layoutAll, layoutAll, Layout.append_empty]

theorem lines_append {depth : Nat} {first second : Layout}
    (begins : ∃ text rest, first.lines = ⟨depth, text⟩ :: rest) :
    ∃ text rest, (first.append second).lines = ⟨depth, text⟩ :: rest := by
  obtain ⟨text, rest, lines⟩ := begins
  rw [Layout.append]
  cases first.outcome with
  | error fault => exact ⟨text, rest, lines⟩
  | ok answer => exact ⟨text, rest ++ second.lines, congrArg (· ++ second.lines) lines⟩

/-- What begins with a line is written with that line first, unless it fails. -/
theorem layoutAll_begins {steps : List Step} (begins : steps.head?.any Step.beginsLine = true)
    {depth : Nat} (succeeds : (layoutAll depth steps).outcome = .ok ()) :
    ∃ text rest, (layoutAll depth steps).lines = ⟨depth, text⟩ :: rest := by
  cases steps with
  | nil => cases begins
  | cons step rest =>
    rw [layoutAll] at succeeds ⊢
    apply lines_append
    cases step with
    | deeper => cases begins
    | shallower => cases begins
    | blank => cases begins
    | itemBlock body => cases begins
    | fail fault =>
      rw [Step.layout] at succeeds
      cases succeeds
    | block key body =>
      rw [Step.layout]
      exact lines_append ⟨_, _, rfl⟩
    | _ =>
      rw [Step.layout]
      exact ⟨_, _, rfl⟩

namespace Reads

variable {first second steps : List Step} {parts more : List Part}

theorem nil : Reads [] [] := ⟨trivial, .empty⟩

theorem parts_of_nil (nothing : Reads [] parts) : parts = [] := by
  have read := nothing.readAs.read 0 [] (follow_nil _)
  simpa [layoutAll, Layout.empty, linesFrom?, placed] using read

theorem append (one : Reads first parts) (two : Reads second more) :
    Reads (first ++ second) (parts ++ more) := by
  refine ⟨nestedAll_append one.nested two.nested, ?_⟩
  have both := one.readAs.append two.readAs
  simpa only [layoutAll_append] using both

/-- A step before others. -/
theorem cons {step : Step} (one : Reads [step] parts) (rest : Reads steps more) :
    Reads (step :: steps) (parts ++ more) := one.append rest

/-- **One step for each element** is read as one part for each. -/
theorem map {α : Type} {elements : List α} {write : α → Step} {part : α → Part}
    (each : ∀ element ∈ elements, Reads [write element] [part element]) :
    Reads (elements.map write) (elements.map part) := by
  induction elements with
  | nil => exact nil
  | cons element rest ih =>
    have later := ih fun other member => each other (List.mem_cons_of_mem element member)
    exact (each element List.mem_cons_self).cons later

/-- The same where each step is related to its element. -/
theorem forall₂ {α : Type} {elements : List α} {steps : List Step} {relation : α → Step → Prop}
    {part : α → Part} (each : ∀ element ∈ elements, ∀ step, relation element step →
      Reads [step] [part element]) (related : List.Forall₂ relation elements steps) :
    Reads steps (elements.map part) := by
  induction related with
  | nil => exact nil
  | @cons element step rest others here _ ih =>
    have later := ih fun other member => each other (List.mem_cons_of_mem element member)
    exact (each element List.mem_cons_self step here).cons later

/-- A step that writes one line. -/
theorem line {step : Step} (text : String) (nested : step.Nested)
    (writes : ∀ depth, step.layout depth = .single ⟨depth, text⟩)
    (whole : onOneLine text.toList = true)
    (read : ∀ column below, Follow column below →
      lineFrom? column text.toList below = some (placed column parts ++ below)) :
    Reads [step] parts := by
  refine ⟨⟨nested, trivial⟩, ?_⟩
  simp only [layoutAll_singleton, writes]
  exact .line whole read

/-- A key with a scalar after it. -/
theorem entry {step : Step} {key written : String} {value : Tree} (nested : step.Nested)
    (writes : ∀ depth, step.layout depth = .single ⟨depth, key ++ ": " ++ written⟩)
    (plain : Plain key.toList) (isScalar : IsScalar written value) :
    Reads [step] [.entry key value] := by
  refine line _ nested writes ?_ fun column below follow => ?_
  · rw [String.toList_append, String.toList_append, onOneLine_append, onOneLine_append, plain.1,
      isScalar.whole]
    decide
  · rw [String.toList_append, String.toList_append, List.append_assoc]
    exact lineFrom?_entry (keyOf_plain plain) isScalar.read follow

/-- A dash with a scalar after it. -/
theorem scalarItem {step : Step} {written : String} {value : Tree} (nested : step.Nested)
    (writes : ∀ depth, step.layout depth = .single ⟨depth, "- " ++ written⟩)
    (isScalar : IsScalar written value) : Reads [step] [.item value] := by
  refine line _ nested writes ?_ fun column below follow => ?_
  · rw [String.toList_append, onOneLine_append, isScalar.whole]
    decide
  · rw [String.toList_append]
    exact lineFrom?_scalarItem isScalar.read follow

theorem scalar (key : String) (plain : Plain key.toList) (value : String) :
    Reads [.scalar key value] [.entry key (.text value)] :=
  entry trivial (fun _ => rfl) plain (.write value)

theorem quoted (key : String) (plain : Plain key.toList) (value : String) :
    Reads [.quoted key value] [.entry key (.text value)] :=
  entry trivial (fun _ => rfl) plain (.quote value)

/-- **A word as it is** is read as itself if it is plain. -/
theorem word (key : String) (plain : Plain key.toList) {value : String}
    (same : Plain value.toList) : Reads [.raw key value] [.entry key (.text value)] :=
  entry trivial (fun _ => rfl) plain (.word same)

/-- **A list between brackets** is read as the list. -/
theorem flowList (key : String) (plain : Plain key.toList) (words : List String) :
    Reads [.raw key (Scalar.flowList words)] [.entry key (.sequence (words.map .text))] :=
  entry trivial (fun _ => rfl) plain (.flowList words)

theorem item (value : String) : Reads [.item value] [.item (.text value)] :=
  scalarItem trivial (fun _ => rfl) (.write value)

theorem quotedItem (value : String) : Reads [.quotedItem value] [.item (.text value)] :=
  scalarItem trivial (fun _ => rfl) (.quote value)

/-- **A comment** is read as nothing. -/
theorem comment {text : String} (whole : onOneLine text.toList = true) :
    Reads [.comment text] [] := by
  refine line ("# " ++ text) trivial (fun _ => rfl) ?_ fun column below _ => ?_
  · rw [String.toList_append, onOneLine_append, whole]
    decide
  · rw [String.toList_append]
    show lineFrom? column ('#' :: ' ' :: text.toList) below = _
    rw [lineFrom?, if_neg (by decide), if_pos rfl]
    rfl

variable {key : String} {value : Tree}

/-- **A key with nothing under it** has no value. -/
theorem bareKey (plain : Plain key.toList) : Reads [.key key] [.entry key .empty] := by
  refine line (key ++ ":") trivial (fun _ => rfl) ?_ fun column below follow => ?_
  · rw [String.toList_append, onOneLine_append, plain.1]
    decide
  · rw [String.toList_append]
    show lineFrom? column (key.toList ++ [':']) below = _
    rw [lineFrom?_key (keyOf_plain plain), follow, outside_of_follow follow]
    rfl

/-- **A block** is an entry whose value is the tree of its body. -/
theorem block (plain : Plain key.toList) (body : Reads steps parts)
    (tree : treeOf? parts = some value) : Reads [.block key steps] [.entry key value] := by
  refine ⟨⟨body.nested, trivial⟩, ?_⟩
  simp only [layoutAll_singleton, Step.layout]
  exact .block (keyOf_plain plain) plain.1 body.readAs tree

/-- **An item of several lines** has the tree of its body as its value. -/
theorem itemBlock (body : Reads steps parts) (begins : steps.head?.any Step.beginsLine = true)
    (tree : treeOf? parts = some value) : Reads [.itemBlock steps] [.item value] := by
  have nested : steps.head?.all Step.beginsLine = true := by
    cases steps with
    | nil => rfl
    | cons step rest => exact begins
  refine ⟨⟨⟨nested, body.nested⟩, trivial⟩, ?_⟩
  simp only [layoutAll_singleton, Step.layout]
  exact body.readAs.opened tree fun depth => layoutAll_begins begins (body.readAs.succeeds depth)

/-- The lines of a map of quoted values. -/
theorem mapLines (entries : List (String × String)) :
    ReadAs (fun depth => ⟨entries.map fun entry => ⟨depth, Step.mapLine entry⟩, .ok ()⟩)
      (entries.map fun entry => .entry entry.1 (.text entry.2)) := by
  induction entries with
  | nil => exact .empty
  | cons entry rest ih =>
    have first : ReadAs (fun depth => Layout.single ⟨depth, Step.mapLine entry⟩)
        [.entry entry.1 (.text entry.2)] := by
      refine .line ?_ fun column below follow => ?_
      · rw [Step.mapLine, String.toList_append, String.toList_append, onOneLine_append,
          onOneLine_append, onOneLine_write, onOneLine_quote]
        decide
      · rw [Step.mapLine, String.toList_append, String.toList_append, List.append_assoc]
        exact lineFrom?_entry (keyOf_write entry.1) (IsScalar.quote entry.2).read follow
    exact first.append ih

/-- **A map of quoted values** is an entry whose value is the map. -/
theorem quotedMap (plain : Plain key.toList) {entries : List (String × String)}
    (tree : treeOf? (entries.map fun entry => .entry entry.1 (.text entry.2)) = some value) :
    Reads [.quotedMap key entries] [.entry key value] := by
  refine ⟨⟨trivial, trivial⟩, ?_⟩
  simp only [layoutAll_singleton, Step.layout]
  exact (mapLines entries).block (keyOf_plain plain) plain.1 tree

/-- **Steps that are read are rendered**, and their text is read as the tree of their parts. -/
theorem read?_render (reads : Reads steps parts) (tree : treeOf? parts = some value) :
    ∃ text, Step.render steps = .ok text ∧ read? text = some value := by
  have lines := reads.readAs.read 0 [] (follow_nil _)
  have rendered : Step.render steps =
      .ok (String.join ((layoutAll 0 steps).lines.map fun line => line.written ++ "\n")) := by
    rw [Step.render_layout reads.nested, reads.readAs.succeeds 0]
    rfl
  refine ⟨_, rendered, ?_⟩
  rw [read?_layout _ (reads.readAs.whole 0), lines, List.append_nil]
  show gather? (placed 0 parts) = some value
  rw [gather?_placed, tree]

end Reads

end Reading

end ContainerStack.Yaml
