import ContainerStack.Proofs.Steps
import ContainerStack.Proofs.TextLines
import ContainerStack.Yaml.Emitter

/-!
**The lines that nested steps write.**

Run on an emitter, steps move its depth and its marker back and forth. Here the lines of a step are
a function of the step and its depth alone.

* `Line`: a line with its depth of nesting.
* `Step.layout`, `Step.layoutAll`: the lines of steps at a depth, and how they end.
* `Step.Nested`: depths are moved by blocks only, and an item begins with a line if it is not empty.
* `Layout.Unbroken`: every line of a layout is one line of its text.
* `Step.run_layout`, `Step.runAll_layout`: run on an emitter at a depth, nested steps append their
  lines and leave the depth as it was.
-/

namespace ContainerStack.Yaml

/-- A line at a depth of nesting. -/
structure Line where
  depth : Nat
  text : String
  deriving DecidableEq, Repr

/-- The line with its indentation. -/
def Line.written (line : Line) : String := Emitter.indentation line.depth ++ line.text

/-- The lines of steps, and whether one of the steps failed after them. -/
structure Layout where
  lines : List Line
  outcome : Except Fault Unit

namespace Layout

/-- Nothing is written. -/
def empty : Layout := ⟨[], .ok ()⟩

/-- One line. -/
def single (line : Line) : Layout := ⟨[line], .ok ()⟩

/-- The lines of two layouts; a failure of the first is the end. -/
def append (first second : Layout) : Layout :=
  match first.outcome with
  | .ok () => ⟨first.lines ++ second.lines, second.outcome⟩
  | .error fault => ⟨first.lines, .error fault⟩

theorem append_empty (layout : Layout) : layout.append empty = layout := by
  obtain ⟨lines, outcome⟩ := layout
  cases outcome with
  | error fault => rfl
  | ok answer =>
    show (⟨lines ++ [], .ok ()⟩ : Layout) = _
    rw [List.append_nil]

theorem append_assoc (first second third : Layout) :
    (first.append second).append third = first.append (second.append third) := by
  obtain ⟨lines, outcome⟩ := first
  cases outcome with
  | error fault => rfl
  | ok answer =>
    obtain ⟨others, ending⟩ := second
    cases ending with
    | error fault => rfl
    | ok answer => simp [append]

/-- Lines whose first one carries the marker of an item, one level less deep. -/
def opened : List Line → List Line
  | [] => []
  | ⟨depth, text⟩ :: rest => ⟨depth - 1, "- " ++ text⟩ :: rest

end Layout

namespace Step

mutual

/-- The lines of a step at a depth. -/
def layout (depth : Nat) : Step → Layout
  | deeper => .empty
  | shallower => .empty
  | line text => .single ⟨depth, text⟩
  | blank => .single ⟨0, ""⟩
  | comment text => .single ⟨depth, "# " ++ text⟩
  | key name => .single ⟨depth, name ++ ":"⟩
  | scalar name value => .single ⟨depth, name ++ ": " ++ Scalar.write value⟩
  | quoted name value => .single ⟨depth, name ++ ": " ++ Scalar.quote value⟩
  | raw name value => .single ⟨depth, name ++ ": " ++ value⟩
  | item value => .single ⟨depth, "- " ++ Scalar.write value⟩
  | quotedItem value => .single ⟨depth, "- " ++ Scalar.quote value⟩
  | block name body => .append (.single ⟨depth, name ++ ":"⟩) (layoutAll (depth + 1) body)
  | itemBlock body =>
    let inner := layoutAll (depth + 1) body
    ⟨Layout.opened inner.lines, inner.outcome⟩
  | quotedMap name entries =>
    ⟨⟨depth, name ++ ":"⟩ :: entries.map fun entry => ⟨depth + 1, mapLine entry⟩, .ok ()⟩
  | fail fault => ⟨[], .error fault⟩

/-- The lines of steps at a depth, up to the first that fails. -/
def layoutAll (depth : Nat) : List Step → Layout
  | [] => .empty
  | step :: rest => .append (step.layout depth) (layoutAll depth rest)

end

/-- Whether the first thing that a step does is to write a line without a marker of its own, or to
fail. -/
def beginsLine : Step → Bool
  | deeper => false
  | shallower => false
  | blank => false
  | itemBlock _ => false
  | _ => true

mutual

/-- Depths are moved by blocks only, and an item begins with a line if it is not empty. -/
def Nested : Step → Prop
  | deeper => False
  | shallower => False
  | block _ body => NestedAll body
  | itemBlock body => body.head?.all beginsLine = true ∧ NestedAll body
  | _ => True

/-- The same for every step of a list. -/
def NestedAll : List Step → Prop
  | [] => True
  | step :: rest => step.Nested ∧ NestedAll rest

end

theorem eq_nil_or_begins {body : List Step} (begins : body.head?.all beginsLine = true) :
    body = [] ∨ body.head?.any beginsLine = true := by
  cases body with
  | nil => exact .inl rfl
  | cons step rest => exact .inr begins

end Step

/-! ### The text of a layout -/

namespace Layout

/-- Every line of the layout is one line. -/
def Unbroken (layout : Layout) : Prop := ∀ line ∈ layout.lines, Text.Unbroken line.text

variable {first second : Layout}

theorem unbroken_single {depth : Nat} {text : String} (unbroken : Text.Unbroken text) :
    (single ⟨depth, text⟩).Unbroken := List.forall_mem_singleton.mpr unbroken

theorem Unbroken.append (begun : first.Unbroken) (ended : second.Unbroken) :
    (first.append second).Unbroken := by
  unfold Layout.append
  cases first.outcome with
  | error fault => exact begun
  | ok answer => exact List.forall_mem_append.mpr ⟨begun, ended⟩

theorem unbroken_opened {lines : List Line} (unbroken : ∀ line ∈ lines, Text.Unbroken line.text) :
    ∀ line ∈ opened lines, Text.Unbroken line.text := by
  cases lines with
  | nil => exact unbroken
  | cons line rest =>
    rw [List.forall_mem_cons] at unbroken
    exact List.forall_mem_cons.mpr ⟨Text.unbroken_append.mpr ⟨by decide, unbroken.1⟩, unbroken.2⟩

/-- The lines of a layout with their indentation, put together. -/
theorem Unbroken.hasLines {layout : Layout} (unbroken : layout.Unbroken) :
    Text.HasLines (String.join (layout.lines.map fun line => line.written ++ "\n"))
      (layout.lines.map Line.written) := by
  have each : ∀ text ∈ layout.lines.map Line.written, Text.Unbroken text := by
    intro text member
    obtain ⟨line, listed, rfl⟩ := List.mem_map.mp member
    have spaces : Text.Unbroken (Emitter.indentation line.depth) := by
      simp [Text.Unbroken, Emitter.indentation]
    exact Text.unbroken_append.mpr ⟨spaces, unbroken line listed⟩
  have joined := Text.hasLines_of_unbroken each
  rwa [List.map_map] at joined

end Layout

/-! ### Edits that write a layout -/

namespace Layout

/-- Run at a depth with no item to be opened, the edit appends the lines of the layout, leaves the
depth as it was and ends as the layout does. -/
def WrittenBy (layout : Layout) (depth : Nat) (edit : Edit Emitter Unit) : Prop :=
  ∀ lines, edit.apply ⟨lines, depth, false⟩ =
    (layout.outcome, ⟨lines ++ layout.lines.map Line.written, depth, false⟩)

/-- Run one level deeper with an item to be opened, the edit does so with its first line. -/
def OpenedBy (layout : Layout) (depth : Nat) (edit : Edit Emitter Unit) : Prop :=
  ∀ lines, edit.apply ⟨lines, depth + 1, true⟩ =
    (layout.outcome,
      ⟨lines ++ (opened layout.lines).map Line.written, depth + 1, layout.lines.isEmpty⟩)

variable {layout first second : Layout} {depth : Nat} {edit one two : Edit Emitter Unit}

theorem writtenBy_empty : empty.WrittenBy depth (pure ()) := by
  intro lines
  simp [empty]

theorem openedBy_empty : empty.OpenedBy depth (pure ()) := by
  intro lines
  simp [empty, opened]

theorem writtenBy_line (text : String) :
    (single ⟨depth, text⟩).WrittenBy depth (Step.writeLine text) := fun _ => rfl

theorem openedBy_line (text : String) :
    (single ⟨depth + 1, text⟩).OpenedBy depth (Step.writeLine text) := by
  intro lines
  show (Except.ok (), Emitter.mk (lines ++ [Emitter.indentation depth ++ "- " ++ text]) _ _) = _
  rw [String.append_assoc]
  rfl

theorem WrittenBy.append (begun : first.WrittenBy depth one) (ended : second.WrittenBy depth two) :
    (first.append second).WrittenBy depth (one >>= fun _ => two) := by
  intro lines
  rw [Edit.apply_bind, begun lines, Layout.append]
  cases first.outcome with
  | error fault => rfl
  | ok answer =>
    rw [List.map_append, ← List.append_assoc]
    exact ended _

theorem OpenedBy.append (begun : first.OpenedBy depth one)
    (ended : second.WrittenBy (depth + 1) two)
    (writes : first.outcome = .ok () → first.lines ≠ []) :
    (first.append second).OpenedBy depth (one >>= fun _ => two) := by
  intro lines
  rw [Edit.apply_bind, begun lines, Layout.append]
  cases outcome : first.outcome with
  | error fault => rfl
  | ok answer =>
    cases written : first.lines with
    | nil => exact absurd written (writes outcome)
    | cons line rest =>
      show two.apply ⟨_, depth + 1, false⟩ = _
      rw [ended]
      simp [opened]

/-- **A block one level deeper** appends the lines of its body and comes back. -/
theorem WrittenBy.deeper (body : layout.WrittenBy (depth + 1) edit) :
    layout.WrittenBy depth (modify Emitter.deeper >>= fun _ => edit.within Emitter.shallower) := by
  intro lines
  rw [Edit.apply_bind, Edit.apply_modify]
  show (edit.within Emitter.shallower).apply ⟨lines, depth + 1, false⟩ = _
  rw [Edit.apply_within, body lines]
  rfl

/-- **An item** appends the lines of its body, the first of them with the marker. -/
theorem OpenedBy.item (body : layout.OpenedBy depth edit) :
    WrittenBy ⟨opened layout.lines, layout.outcome⟩ depth
      (modify (fun emitter => { emitter.deeper with pendingItem := true }) >>= fun _ =>
        edit.within fun emitter => { emitter.shallower with pendingItem := false }) := by
  intro lines
  rw [Edit.apply_bind, Edit.apply_modify]
  show (edit.within _).apply ⟨lines, depth + 1, true⟩ = _
  rw [Edit.apply_within, body lines]
  rfl

theorem writtenBy_entries (entries : List (String × String)) :
    WrittenBy ⟨entries.map fun entry => ⟨depth, Step.mapLine entry⟩, .ok ()⟩ depth
      (entries.forM fun entry => Step.writeLine (Step.mapLine entry)) := by
  induction entries with
  | nil => exact writtenBy_empty
  | cons entry rest ih => exact (writtenBy_line (Step.mapLine entry)).append ih

end Layout

/-! ### Running nested steps -/

namespace Step

mutual

/-- **A nested step appends its lines** and leaves the depth as it was. -/
theorem run_layout (step : Step) (nested : step.Nested) (depth : Nat) :
    (step.layout depth).WrittenBy depth step.run := by
  cases step with
  | deeper => exact nested.elim
  | shallower => exact nested.elim
  | blank =>
    intro lines
    rfl
  | block name body =>
    rw [run, layout]
    exact (Layout.writtenBy_line _).append (runAll_layout body nested (depth + 1)).deeper
  | itemBlock body =>
    rw [run, layout]
    exact (runAll_opens body nested.1 nested.2 depth).item
  | quotedMap name entries =>
    rw [run, layout]
    exact (Layout.writtenBy_line _).append (Layout.writtenBy_entries entries).deeper
  | fail fault =>
    intro lines
    simp [run, layout]
  | _ =>
    rw [run, layout]
    exact Layout.writtenBy_line _

/-- **Nested steps append their lines** and leave the depth as it was. -/
theorem runAll_layout (steps : List Step) (nested : NestedAll steps) (depth : Nat) :
    (layoutAll depth steps).WrittenBy depth (runAll steps) := by
  cases steps with
  | nil =>
    rw [runAll, layoutAll]
    exact Layout.writtenBy_empty
  | cons step rest =>
    rw [runAll, layoutAll]
    exact (run_layout step nested.1 depth).append (runAll_layout rest nested.2 depth)

/-- The body of an item opens the item with its first line. -/
theorem runAll_opens (steps : List Step) (begins : steps.head?.all beginsLine = true)
    (nested : NestedAll steps) (depth : Nat) :
    (layoutAll (depth + 1) steps).OpenedBy depth (runAll steps) := by
  cases steps with
  | nil =>
    rw [runAll, layoutAll]
    exact Layout.openedBy_empty
  | cons step rest =>
    rw [runAll, layoutAll]
    have later := runAll_layout rest nested.2 (depth + 1)
    cases step with
    | deeper => cases begins
    | shallower => cases begins
    | blank => cases begins
    | itemBlock body => cases begins
    | block name body =>
      rw [run, layout]
      refine Layout.OpenedBy.append ?_ later ?_
      · exact (Layout.openedBy_line _).append (runAll_layout body nested.1 (depth + 2)).deeper
          fun _ => List.cons_ne_nil _ _
      · intro _
        unfold Layout.append
        exact List.cons_ne_nil _ _
    | quotedMap name entries =>
      rw [run, layout]
      refine Layout.OpenedBy.append ?_ later fun _ => List.cons_ne_nil _ _
      exact (Layout.openedBy_line _).append (Layout.writtenBy_entries entries).deeper
        fun _ => List.cons_ne_nil _ _
    | fail fault =>
      refine Layout.OpenedBy.append ?_ later nofun
      intro lines
      simp [run, layout, Layout.opened]
    | _ =>
      rw [run, layout]
      exact (Layout.openedBy_line _).append later fun _ => List.cons_ne_nil _ _

end

/-- **Nested steps are rendered as their lines at the outermost depth.** -/
theorem render_layout {steps : List Step} (nested : NestedAll steps) :
    render steps = (layoutAll 0 steps).outcome.map fun _ =>
      String.join ((layoutAll 0 steps).lines.map fun line => line.written ++ "\n") := by
  unfold render Emitter.empty
  rw [runAll_layout steps nested 0 []]
  cases (layoutAll 0 steps).outcome with
  | error fault => rfl
  | ok answer => simp [Except.map, Emitter.text, Function.comp_def]

end Step

end ContainerStack.Yaml
