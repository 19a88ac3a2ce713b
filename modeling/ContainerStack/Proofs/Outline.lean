import ContainerStack.Proofs.CoreSchema
import ContainerStack.Proofs.Writing

/-!
**The outline of a text.**

The outline tells for every key and every item of a block which keys and items it stands under. It
is read off the columns alone: what begins at a column stands under the last thing above it that
begins further to the left. A key is kept as it is written, so that one can still tell whether it
stands between quotes.

* `Key`, `Key.kind`: a key as it is written, and what the core schema takes it for.
* `marksFrom`, `pathsFrom`, `paths`: the marks of a line, and the paths of a text.
* `pathsFrom_append`: what begins at one column does not stand under what came before it there.
* `paths_layout`: the paths of a text are those of the lines of its layout.
* `Headed`: steps that begin with a mark of their own; `pathsFrom_steps`: their paths are those of
  each of them alone.
-/

namespace ContainerStack.Yaml.Outline

open Reading

/-! ### Keys and marks -/

/-- A key as it is written: the text that it holds, and whether it stands between quotes. -/
structure Key where
  text : String
  isQuoted : Bool
  deriving DecidableEq, Repr

namespace Key

/-- A key without quotes. -/
def plain (text : String) : Key := ⟨text, false⟩

/-- What the key is taken for. -/
def kind (key : Key) : Core.Kind := if key.isQuoted then .string else Core.kind key.text

end Key

/-- What begins at a column. -/
inductive Mark where
  | item
  | key (key : Key)
  deriving DecidableEq, Repr

/-- A mark with its column. -/
abbrev Marked := Nat × Mark

/-- The key that begins here: a scalar with a colon and a blank after it. -/
def keyAt? (chars : List Char) : Option Key :=
  match scalarFrom? chars with
  | some (.text text, after) =>
    match after.dropWhile Source.isSpace with
    | ':' :: rest => if atGap rest then some ⟨text, chars.head? == some '"'⟩ else none
    | _ => none
  | _ => none

/-- The marks of a line from a column on: its dashes, and then its key. -/
def marksFrom (column : Nat) : List Char → List Marked
  | [] => []
  | char :: rest =>
    if char = ' ' then marksFrom (column + 1) rest
    else if char = '#' then []
    else if char = '-' ∧ atGap rest = true then (column, .item) :: marksFrom (column + 1) rest
    else ((keyAt? (char :: rest)).map fun key => (column, Mark.key key)).toList

/-- The path of every mark: itself and what it stands under, the innermost first. -/
def pathsFrom (above : List Marked) : List Marked → List (List Mark)
  | [] => []
  | mark :: rest =>
    let path := mark :: above.dropWhile fun outer => mark.1 ≤ outer.1
    path.map Prod.snd :: pathsFrom path rest

/-- The paths of a text. -/
def paths (text : String) : List (List Mark) :=
  pathsFrom [] ((text.toList.splitOnP endsLine).flatMap (marksFrom 0))

example : paths "web: # first\n  \"on\":\n    - x: y\n      z:\nend: 1\n" =
    let web := Mark.key (.plain "web")
    let on := Mark.key ⟨"on", true⟩
    [[web], [on, web], [.item, on, web], [.key (.plain "x"), .item, on, web],
      [.key (.plain "z"), .item, on, web], [.key (.plain "end")]] := rfl

/-! ### Marks of a line -/

theorem marksFrom_spaces (count column : Nat) (chars : List Char) :
    marksFrom column (List.replicate count ' ' ++ chars) = marksFrom (column + count) chars := by
  induction count generalizing column with
  | zero => rfl
  | succ count ih =>
    rw [List.replicate_succ, List.cons_append, marksFrom, if_pos rfl, ih]
    congr 1
    omega

/-- Nothing of a line begins before it. -/
theorem le_of_mem_marksFrom {column : Nat} {chars : List Char} {mark : Marked}
    (member : mark ∈ marksFrom column chars) : column ≤ mark.1 := by
  induction chars generalizing column with
  | nil => cases member
  | cons char rest ih =>
    rw [marksFrom] at member
    split at member
    · exact Nat.le_of_succ_le (ih member)
    split at member
    · cases member
    split at member
    · rcases List.mem_cons.mp member with rfl | later
      · exact Nat.le_refl column
      · exact Nat.le_of_succ_le (ih later)
    · obtain ⟨key, _, rfl⟩ := Option.map_eq_some_iff.mp (Option.mem_toList.mp member)
      exact Nat.le_refl column

/-- **A plain key** is the mark of its line, as it is written. -/
theorem marksFrom_plain {name : String} (plain : Plain name.toList) (column : Nat)
    {rest : List Char} (gap : atGap rest = true) :
    marksFrom column (name.toList ++ ':' :: rest) = [(column, .key (.plain name))] := by
  have read := keyOf_plain plain rest gap
  have begins := plain.2.1
  cases chars : name.toList with
  | nil =>
    rw [chars] at begins
    cases begins
  | cons char others =>
    rw [chars] at read begins
    have unquoted : char ≠ '"' := by
      rintro rfl
      cases begins
    obtain ⟨notSpace, notSign, notItem⟩ := begins_of_scalar read
    have key : keyAt? (char :: (others ++ ':' :: rest)) = some (.plain name) := by
      have stays : (':' :: rest).dropWhile Source.isSpace = ':' :: rest := rfl
      rw [keyAt?, ← List.cons_append, read]
      simp [stays, gap, Key.plain, unquoted]
    rw [List.cons_append, marksFrom, if_neg notSpace, if_neg notSign]
    exact (if_neg notItem).trans (by rw [key]; rfl)

/-- A dash is a mark of its own, before those of what it opens. -/
theorem marksFrom_item (column : Nat) (chars : List Char) :
    marksFrom column ('-' :: ' ' :: chars) = (column, .item) :: marksFrom (column + 2) chars := by
  rw [marksFrom, if_neg (by decide), if_neg (by decide), if_pos ⟨rfl, rfl⟩, marksFrom, if_pos rfl]

/-! ### Paths of marks -/

section Paths

variable {column : Nat} {inner above : List Marked}

/-- What does not begin before a column never leaves out what does. -/
theorem dropWhile_above {bound : Nat} (outer : ∀ mark ∈ above, mark.1 < column)
    (before : column ≤ bound) :
    ((inner ++ above).dropWhile fun mark => bound ≤ mark.1) =
      (inner.dropWhile fun mark => bound ≤ mark.1) ++ above := by
  have stays : (above.dropWhile fun mark => bound ≤ mark.1) = above := by
    cases above with
    | nil => rfl
    | cons mark rest =>
      have less := outer mark List.mem_cons_self
      exact List.dropWhile_cons_of_neg (by simp; omega)
  rw [List.dropWhile_append, stays]
  split
  · rename_i empty
    rw [List.isEmpty_iff.mp empty, List.nil_append]
  · rfl

/-- What begins at a column does not stand under what does not begin before it. -/
theorem pathsFrom_closed {marks : List Marked} (closed : ∀ mark ∈ inner, column ≤ mark.1)
    (begins : ∀ mark ∈ marks.head?, mark.1 = column) :
    pathsFrom (inner ++ above) marks = pathsFrom above marks := by
  cases marks with
  | nil => rfl
  | cons mark rest =>
    have same := begins mark rfl
    rw [pathsFrom, pathsFrom, List.dropWhile_append_of_pos fun other member => by
      simpa [same] using closed other member]

/-- **What begins at one column stands under the same marks**, whatever came before it there. -/
theorem pathsFrom_append {first second : List Marked} (closed : ∀ mark ∈ inner, column ≤ mark.1)
    (outer : ∀ mark ∈ above, mark.1 < column) (deep : ∀ mark ∈ first, column ≤ mark.1)
    (begins : ∀ mark ∈ second.head?, mark.1 = column) :
    pathsFrom (inner ++ above) (first ++ second) =
      pathsFrom (inner ++ above) first ++ pathsFrom above second := by
  -- `inner` is what has come of this column so far and is still open; `above` is never closed.
  induction first generalizing inner with
  | nil => exact pathsFrom_closed closed begins
  | cons mark rest ih =>
    have here := deep mark List.mem_cons_self
    rw [List.cons_append, pathsFrom, pathsFrom, dropWhile_above outer here]
    have later := @ih (mark :: inner.dropWhile fun other => mark.1 ≤ other.1) ?_
      fun other member => deep other (List.mem_cons_of_mem mark member)
    · exact congrArg _ later
    · intro other member
      rcases List.mem_cons.mp member with rfl | kept
      · exact here
      · exact closed other (List.dropWhile_subset _ kept)

/-- **What begins at a column or after it stands under all that begins before.** -/
theorem pathsFrom_above {marks : List Marked} (closed : ∀ mark ∈ inner, column ≤ mark.1)
    (outer : ∀ mark ∈ above, mark.1 < column) (deep : ∀ mark ∈ marks, column ≤ mark.1)
    {path : List Mark} (member : path ∈ pathsFrom (inner ++ above) marks) :
    ∃ own under, path = own :: under ++ above.map Prod.snd := by
  induction marks generalizing inner with
  | nil => cases member
  | cons mark rest ih =>
    have here := deep mark List.mem_cons_self
    rw [pathsFrom, dropWhile_above outer here] at member
    rcases List.mem_cons.mp member with rfl | later
    · exact ⟨mark.2, (inner.dropWhile fun other => mark.1 ≤ other.1).map Prod.snd, by simp⟩
    · refine @ih (mark :: inner.dropWhile fun other => mark.1 ≤ other.1) ?_
        (fun other member => deep other (List.mem_cons_of_mem mark member)) later
      intro other member
      rcases List.mem_cons.mp member with rfl | kept
      · exact here
      · exact closed other (List.dropWhile_subset _ kept)

end Paths

/-! ### Marks of a layout -/

/-- The marks of the lines of a layout. -/
def marksOf (lines : List Line) : List Marked :=
  lines.flatMap fun line => marksFrom (2 * line.depth) line.text.toList

theorem marksOf_append (first second : List Line) :
    marksOf (first ++ second) = marksOf first ++ marksOf second := List.flatMap_append

theorem marksFrom_written (line : Line) :
    marksFrom 0 line.written.toList = marksFrom (2 * line.depth) line.text.toList := by
  rw [Line.written, Emitter.indentation, String.toList_append, String.toList_ofList,
    marksFrom_spaces, Nat.zero_add]

/-- **The paths of a text are those of the lines of its layout.** -/
theorem paths_layout (lines : List Line)
    (whole : ∀ line ∈ lines, onOneLine line.text.toList = true) :
    paths (String.join (lines.map fun line => line.written ++ "\n")) =
      pathsFrom [] (marksOf lines) := by
  have split := splitOnP_lines (lines.map Line.written) fun text member => by
    obtain ⟨line, listed, rfl⟩ := List.mem_map.mp member
    exact onOneLine_written (whole line listed)
  rw [List.map_map, List.map_map] at split
  have marks : (lines.map (String.toList ∘ Line.written) ++ [[]]).flatMap (marksFrom 0) =
      marksOf lines := by
    rw [List.flatMap_append, List.flatMap_map]
    simp only [Function.comp_apply, marksFrom_written]
    exact List.append_nil _
  rw [paths, ← marks, ← split]
  rfl

/-! ### Marks of steps -/

open Step (layoutAll NestedAll)

/-- The marks of a step at a depth. -/
def marks (depth : Nat) (step : Step) : List Marked := marksOf (step.layout depth).lines

/-- The marks of steps at a depth. -/
def marksAll (depth : Nat) (steps : List Step) : List Marked :=
  marksOf (layoutAll depth steps).lines

theorem append_succeeds {first second : Layout}
    (succeeds : (first.append second).outcome = .ok ()) :
    first.outcome = .ok () ∧ second.outcome = .ok () ∧
      (first.append second).lines = first.lines ++ second.lines := by
  rw [Layout.append] at succeeds ⊢
  cases ended : first.outcome with
  | error fault =>
    rw [ended] at succeeds
    cases succeeds
  | ok answer =>
    rw [ended] at succeeds
    exact ⟨rfl, succeeds, rfl⟩

section Depths

variable {depth : Nat}

/-- Nothing of a line begins to the left of its depth. -/
theorem le_of_mem_marksOf {lines : List Line} (deep : ∀ line ∈ lines, depth ≤ line.depth)
    {mark : Marked} (member : mark ∈ marksOf lines) : 2 * depth ≤ mark.1 := by
  obtain ⟨line, listed, member⟩ := List.mem_flatMap.mp member
  have least := deep line listed
  have begins := le_of_mem_marksFrom member
  omega

mutual

/-- **Nothing of a nested step begins to the left of its depth.** -/
theorem le_of_mem_marks (step : Step) (nested : step.Nested) (depth : Nat)
    (succeeds : (step.layout depth).outcome = .ok ()) :
    ∀ mark ∈ marks depth step, 2 * depth ≤ mark.1 := by
  intro mark member
  rw [marks] at member
  cases step with
  | deeper => exact nested.elim
  | shallower => exact nested.elim
  | blank => cases member
  | fail fault => cases member
  | block name body =>
    rw [Step.layout] at member succeeds
    obtain ⟨_, ended, lines⟩ := append_succeeds succeeds
    rw [lines, marksOf_append, List.mem_append] at member
    rcases member with here | below
    · exact le_of_mem_marksOf (fun line listed => by simp_all [Layout.single]) here
    · have deep := le_of_mem_marksAll body nested (depth + 1) ended mark below
      omega
  | itemBlock body =>
    rw [Step.layout] at member succeeds
    rcases Step.eq_nil_or_begins nested.1 with rfl | begins
    · cases member
    -- Only the first line moves to the left, by the width of its dash.
    obtain ⟨text, rest, lines⟩ := layoutAll_begins begins succeeds
    have deep := le_of_mem_marksAll body nested.2 (depth + 1) succeeds mark
    rw [marksAll, lines] at deep
    rw [lines] at member
    rcases List.mem_append.mp member with opened | below
    · have begins := le_of_mem_marksFrom opened
      dsimp only at begins
      omega
    · have later := deep (List.mem_append_right _ below)
      omega
  | quotedMap name entries =>
    rw [Step.layout] at member
    refine le_of_mem_marksOf (fun line listed => ?_) member
    rcases List.mem_cons.mp listed with rfl | later
    · exact Nat.le_refl depth
    · obtain ⟨entry, _, rfl⟩ := List.mem_map.mp later
      exact Nat.le_succ depth
  | _ =>
    rw [Step.layout] at member
    exact le_of_mem_marksOf (fun line listed => by simp_all [Layout.single]) member

/-- **Nothing of nested steps begins to the left of their depth.** -/
theorem le_of_mem_marksAll (steps : List Step) (nested : NestedAll steps) (depth : Nat)
    (succeeds : (layoutAll depth steps).outcome = .ok ()) :
    ∀ mark ∈ marksAll depth steps, 2 * depth ≤ mark.1 := by
  intro mark member
  cases steps with
  | nil => cases member
  | cons step rest =>
    rw [layoutAll] at succeeds
    obtain ⟨begun, ended, lines⟩ := append_succeeds succeeds
    rw [marksAll, layoutAll, lines, marksOf_append, List.mem_append] at member
    exact member.elim (le_of_mem_marks step nested.1 depth begun mark)
      (le_of_mem_marksAll rest nested.2 depth ended mark)

end

/-! ### Steps that are written to their end -/

/-- The steps are nested, and at a depth none of them fails. -/
structure WrittenAll (depth : Nat) (steps : List Step) : Prop where
  nested : NestedAll steps
  succeeds : (layoutAll depth steps).outcome = .ok ()

namespace WrittenAll

theorem of_reads {steps : List Step} {parts : List Part} (reads : Reads steps parts) :
    WrittenAll depth steps := ⟨reads.nested, reads.readAs.succeeds depth⟩

theorem of_cons {step : Step} {rest : List Step} (written : WrittenAll depth (step :: rest)) :
    WrittenAll depth [step] ∧ WrittenAll depth rest := by
  obtain ⟨nested, succeeds⟩ := written
  rw [layoutAll] at succeeds
  obtain ⟨begun, ended, _⟩ := append_succeeds succeeds
  exact ⟨⟨⟨nested.1, trivial⟩, by rwa [layoutAll_singleton]⟩, nested.2, ended⟩

theorem of_mem {steps : List Step} (written : WrittenAll depth steps) {step : Step}
    (member : step ∈ steps) : WrittenAll depth [step] := by
  induction steps with
  | nil => cases member
  | cons first rest ih =>
    rcases List.mem_cons.mp member with rfl | later
    · exact written.of_cons.1
    · exact ih written.of_cons.2 later

theorem of_append {first second : List Step} (written : WrittenAll depth (first ++ second)) :
    WrittenAll depth first ∧ WrittenAll depth second := by
  induction first with
  | nil => exact ⟨⟨trivial, rfl⟩, written⟩
  | cons step rest ih =>
    obtain ⟨alone, others⟩ := written.of_cons
    obtain ⟨later, last⟩ := ih others
    refine ⟨⟨⟨alone.nested.1, later.nested⟩, ?_⟩, last⟩
    have begun := alone.succeeds
    rw [layoutAll_singleton] at begun
    rw [layoutAll, Layout.append, begun]
    exact later.succeeds

theorem body {name : String} {body : List Step} (written : WrittenAll depth [.block name body]) :
    WrittenAll (depth + 1) body := by
  obtain ⟨nested, succeeds⟩ := written
  rw [layoutAll_singleton, Step.layout] at succeeds
  exact ⟨nested.1, (append_succeeds succeeds).2.1⟩

end WrittenAll

/-! ### Steps that begin with a mark -/

/-- The step begins with a mark at its depth, and nothing else of it begins there. -/
def Headed (depth : Nat) (mark : Mark) (step : Step) : Prop :=
  ∃ under, marks depth step = (2 * depth, mark) :: under ∧ ∀ other ∈ under, 2 * depth < other.1

/-- The key that a step begins with. -/
def key? : Step → Option String
  | .key name | .scalar name _ | .quoted name _ | .raw name _ => some name
  | .block name _ | .quotedMap name _ => some name
  | _ => none

variable {name : String}

theorem marksFrom_key (plain : Plain name.toList) :
    marksFrom (2 * depth) (name ++ ":").toList = [(2 * depth, .key (.plain name))] := by
  rw [String.toList_append]
  exact marksFrom_plain plain _ rfl

theorem marksFrom_entry (plain : Plain name.toList) (value : String) :
    marksFrom (2 * depth) (name ++ ": " ++ value).toList = [(2 * depth, .key (.plain name))] := by
  rw [String.toList_append, String.toList_append, List.append_assoc]
  exact @marksFrom_plain _ plain _ (' ' :: value.toList) rfl

theorem marks_block (plain : Plain name.toList) (body : List Step) :
    marks depth (.block name body) =
      (2 * depth, .key (.plain name)) :: marksAll (depth + 1) body := by
  rw [marks, Step.layout]
  show marksFrom (2 * depth) (name ++ ":").toList ++ marksAll (depth + 1) body = _
  rw [marksFrom_key plain]
  rfl

/-- **A step with a plain key is headed by it.** -/
theorem headed_of_key {step : Step} (keyed : key? step = some name) (plain : Plain name.toList)
    (written : WrittenAll depth [step]) : Headed depth (.key (.plain name)) step := by
  have alone {text : String} (writes : step.layout depth = .single ⟨depth, text⟩)
      (begins : marksFrom (2 * depth) text.toList = [(2 * depth, .key (.plain name))]) :
      Headed depth (.key (.plain name)) step := by
    refine ⟨[], ?_, nofun⟩
    rw [marks, writes, ← begins]
    exact List.append_nil _
  cases step with
  | key => cases keyed; exact alone rfl (marksFrom_key plain)
  | scalar => cases keyed; exact alone rfl (marksFrom_entry plain _)
  | quoted => cases keyed; exact alone rfl (marksFrom_entry plain _)
  | raw => cases keyed; exact alone rfl (marksFrom_entry plain _)
  | block _ body =>
    cases keyed
    refine ⟨_, marks_block plain body, fun mark member => ?_⟩
    have inner := written.body
    have deep := le_of_mem_marksAll body inner.nested (depth + 1) inner.succeeds mark member
    omega
  | quotedMap _ entries =>
    cases keyed
    refine ⟨marksOf (entries.map fun entry => ⟨depth + 1, Step.mapLine entry⟩), ?_,
      fun mark member => ?_⟩
    · show marksFrom (2 * depth) (name ++ ":").toList ++ _ = _
      rw [marksFrom_key plain]
      rfl
    · have deep : 2 * (depth + 1) ≤ mark.1 := le_of_mem_marksOf (fun line listed => by
        obtain ⟨entry, _, rfl⟩ := List.mem_map.mp listed
        exact Nat.le_refl _) member
      omega
  | _ => cases keyed

/-- **An item is headed by its dash.** -/
theorem headed_item (value : String) : Headed depth .item (.item value) := by
  refine ⟨marksFrom (2 * depth + 2) (Scalar.write value).toList, ?_, fun mark member => ?_⟩
  · show marksFrom (2 * depth) ("- " ++ Scalar.write value).toList ++ [] = _
    rw [List.append_nil, String.toList_append]
    exact marksFrom_item _ _
  · have begins := le_of_mem_marksFrom member
    omega

end Depths

/-! ### Paths of steps -/

section Steps

variable {depth : Nat} {above : List Marked} {steps : List Step}

theorem marksAll_begins (each : ∀ step ∈ steps, ∃ mark, Headed depth mark step) :
    ∀ mark ∈ (marksAll depth steps).head?, mark.1 = 2 * depth := by
  cases steps with
  | nil => nofun
  | cons step rest =>
    obtain ⟨mark, under, begins, _⟩ := each step List.mem_cons_self
    have lines : ∃ more, marksAll depth (step :: rest) = (2 * depth, mark) :: more := by
      rw [marksAll, layoutAll, Layout.append]
      cases (step.layout depth).outcome with
      | error fault => exact ⟨under, begins⟩
      | ok answer =>
        refine ⟨under ++ marksAll depth rest, ?_⟩
        show marksOf ((step.layout depth).lines ++ (layoutAll depth rest).lines) = _
        rw [marksOf_append]
        exact congrArg (· ++ marksAll depth rest) begins
    obtain ⟨more, same⟩ := lines
    rw [same]
    rintro other ⟨⟩
    rfl

/-- **The paths of headed steps are those of each of them alone.** -/
theorem pathsFrom_steps (each : ∀ step ∈ steps, ∃ mark, Headed depth mark step)
    (written : WrittenAll depth steps) (outer : ∀ mark ∈ above, mark.1 < 2 * depth) :
    pathsFrom above (marksAll depth steps) =
      steps.flatMap fun step => pathsFrom above (marks depth step) := by
  induction steps with
  | nil => rfl
  | cons step rest ih =>
    have later := fun other member => each other (List.mem_cons_of_mem step member)
    have lines := written.succeeds
    rw [layoutAll] at lines
    obtain ⟨_, _, lines⟩ := append_succeeds lines
    obtain ⟨mark, under, begins, deep⟩ := each step List.mem_cons_self
    rw [marksAll, layoutAll, lines, marksOf_append, List.flatMap_cons,
      ← ih later written.of_cons.2]
    refine @pathsFrom_append _ [] _ _ _ nofun outer (fun other member => ?_)
      (marksAll_begins later)
    have listed : other ∈ marks depth step := member
    rw [begins] at listed
    rcases List.mem_cons.mp listed with rfl | below
    · exact Nat.le_refl _
    · exact Nat.le_of_lt (deep other below)

/-- **The mark that a step begins with stands under what is above**, and the rest of the step
under that mark. -/
theorem pathsFrom_headed {mark : Mark} {under : List Marked} {step : Step}
    (begins : marks depth step = (2 * depth, mark) :: under)
    (outer : ∀ mark ∈ above, mark.1 < 2 * depth) :
    pathsFrom above (marks depth step) =
      (mark :: above.map Prod.snd) :: pathsFrom ((2 * depth, mark) :: above) under := by
  have stays : (above.dropWhile fun outer => 2 * depth ≤ outer.1) = above :=
    @dropWhile_above _ [] _ _ outer (Nat.le_refl (2 * depth))
  rw [begins, pathsFrom]
  dsimp only
  rw [stays]
  rfl

/-- The same for a step of which nothing but its mark is known. -/
theorem Headed.paths {mark : Mark} {step : Step} (headed : Headed depth mark step)
    (outer : ∀ mark ∈ above, mark.1 < 2 * depth) :
    ∃ deeper, pathsFrom above (marks depth step) = (mark :: above.map Prod.snd) :: deeper ∧
      ∀ path ∈ deeper, ∃ own others, path = own :: others ++ mark :: above.map Prod.snd := by
  obtain ⟨under, begins, deep⟩ := headed
  refine ⟨_, pathsFrom_headed begins outer, fun path member => ?_⟩
  refine @pathsFrom_above _ [] ((2 * depth, mark) :: above) _ nofun ?_ deep path member
  intro other listed
  rcases List.mem_cons.mp listed with rfl | listed
  · exact Nat.lt_succ_self _
  · exact Nat.lt_succ_of_lt (outer other listed)

end Steps

end ContainerStack.Yaml.Outline
