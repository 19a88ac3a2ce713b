import ContainerStack.Proofs.Layout
import ContainerStack.Proofs.Scalars

/-!
**What nested steps do, in order.**

A program of steps is a list of events: the lines that its steps are to write, each at its level,
and the failures among them. The list is read off the nesting alone, as if nothing ever failed; a
run writes the lines before the first failure, and ends with it.

* `Event`, `Step.events`: what steps are to do. `Event.opened`: the first line of an item carries
  its marker.
* `Performed`: what is written of events, and how they end.
* `performed_layout`: the layout of steps is what is written of their events.
* `result_layout`: the answer of steps does not depend on the emitter.
* `Step.Unbroken`: steps whose texts stay on their lines.
* `nested_steps_written`: run on any emitter, nested steps add a line for each event, up to the
  first failure.
-/

namespace ContainerStack.Yaml

/-- What a step does to the text: it adds a line, or it fails. -/
inductive Event where
  | write (line : Line)
  | fail (fault : Fault)

/-- Events of which the first, if it is a line, opens an item: it carries the marker, one level less
deep. -/
def Event.opened : List Event → List Event
  | write ⟨depth, text⟩ :: rest => write ⟨depth - 1, "- " ++ text⟩ :: rest
  | events => events

namespace Step

mutual

/-- The events of a step at a depth: its body is one level deeper, and what follows a failure is
listed as well. -/
def events (depth : Nat) : Step → List Event
  | fail fault => [.fail fault]
  | block name body => .write ⟨depth, name ++ ":"⟩ :: eventsAll (depth + 1) body
  | itemBlock body => Event.opened (eventsAll (depth + 1) body)
  | step => (step.layout depth).lines.map .write

/-- The events of steps, one after the other. -/
def eventsAll (depth : Nat) : List Step → List Event
  | [] => []
  | step :: rest => step.events depth ++ eventsAll depth rest

end

example : eventsAll 1 [block "configs" [itemBlock [scalar "source" "app", key "more"]]] =
    [.write ⟨1, "configs:"⟩, .write ⟨2, "- source: app"⟩, .write ⟨3, "more:"⟩] := rfl

end Step

/-! ### What is written of events -/

/-- The lines of a layout are those of the events up to the first failure, and it ends with that. -/
inductive Performed : List Event → Layout → Prop where
  | all (lines : List Line) : Performed (lines.map .write) ⟨lines, .ok ()⟩
  | upTo (lines : List Line) (fault : Fault) (later : List Event) :
    Performed (lines.map .write ++ .fail fault :: later) ⟨lines, .error fault⟩

namespace Performed

variable {events others : List Event} {layout second : Layout}

theorem append (begun : Performed events layout) (ended : Performed others second) :
    Performed (events ++ others) (layout.append second) := by
  cases begun with
  | all lines =>
    cases ended with
    | all more =>
      rw [← List.map_append]
      exact .all (lines ++ more)
    | upTo more fault later =>
      rw [← List.append_assoc, ← List.map_append]
      exact .upTo (lines ++ more) fault later
  | upTo lines fault later =>
    rw [List.append_assoc, List.cons_append]
    exact .upTo lines fault (later ++ others)

theorem opened (performed : Performed events layout) :
    Performed (Event.opened events) ⟨Layout.opened layout.lines, layout.outcome⟩ := by
  cases performed with
  | all lines =>
    cases lines with
    | nil => exact .all []
    | cons line rest => exact .all (⟨line.depth - 1, "- " ++ line.text⟩ :: rest)
  | upTo lines fault later =>
    cases lines with
    | nil => exact .upTo [] fault later
    | cons line rest => exact .upTo (⟨line.depth - 1, "- " ++ line.text⟩ :: rest) fault later

end Performed

namespace Step

mutual

/-- **The layout of a step is what is written of its events.** -/
theorem performed_layout (step : Step) (depth : Nat) :
    Performed (step.events depth) (step.layout depth) := by
  cases step with
  | block name body =>
    rw [events, layout]
    exact (Performed.all [⟨depth, name ++ ":"⟩]).append (performed_layoutAll body (depth + 1))
  | itemBlock body =>
    rw [events, layout]
    exact (performed_layoutAll body (depth + 1)).opened
  | fail fault =>
    rw [events, layout]
    exact .upTo [] fault []
  | _ => exact .all _

/-- **The layout of steps is what is written of their events.** -/
theorem performed_layoutAll (steps : List Step) (depth : Nat) :
    Performed (eventsAll depth steps) (layoutAll depth steps) := by
  cases steps with
  | nil =>
    rw [eventsAll, layoutAll]
    exact .all []
  | cons step rest =>
    rw [eventsAll, layoutAll]
    exact (performed_layout step depth).append (performed_layoutAll rest depth)

end

end Step

/-! ### How steps end -/

namespace Layout

/-- The edit ends as the layout does, on every emitter. -/
def EndsAs (layout : Layout) (edit : Edit Emitter Unit) : Prop :=
  ∀ emitter, (edit.apply emitter).1 = layout.outcome

variable {layout first second : Layout} {edit one two : Edit Emitter Unit}

theorem endsAs_modify (lines : List Line) (change : Emitter → Emitter) :
    EndsAs ⟨lines, .ok ()⟩ (modify change) := fun _ => rfl

theorem EndsAs.append (begun : first.EndsAs one) (ended : second.EndsAs two) :
    (first.append second).EndsAs (one >>= fun _ => two) := by
  intro emitter
  have here := begun emitter
  rw [Edit.apply_bind, Layout.append]
  cases answered : one.apply emitter with
  | mk answer left =>
    rw [answered] at here
    subst here
    cases first.outcome with
    | error fault => rfl
    | ok answer => exact ended left

/-- What happens to the depth and to the marker around an edit does not change how it ends. -/
theorem EndsAs.around (body : layout.EndsAs edit) (change close : Emitter → Emitter) :
    layout.EndsAs (modify change >>= fun _ => edit.within close) := by
  intro emitter
  rw [Edit.apply_bind, Edit.apply_modify]
  exact body _

theorem endsAs_entries (lines : List Line) (entries : List (String × String)) :
    EndsAs ⟨lines, .ok ()⟩ (entries.forM fun entry => Step.writeLine (Step.mapLine entry)) := by
  induction entries with
  | nil => exact fun _ => rfl
  | cons entry rest ih => exact (endsAs_modify [] _).append ih

end Layout

namespace Step

mutual

/-- **A step ends as its layout**, whatever it is run on. -/
theorem result_layout (step : Step) (depth : Nat) : (step.layout depth).EndsAs step.run := by
  cases step with
  | block name body =>
    rw [run, layout]
    exact (Layout.endsAs_modify _ _).append ((result_layoutAll body (depth + 1)).around _ _)
  | itemBlock body =>
    rw [run, layout]
    exact (result_layoutAll body (depth + 1)).around _ _
  | quotedMap name entries =>
    rw [run, layout]
    exact (Layout.endsAs_modify [] _).append ((Layout.endsAs_entries [] entries).around _ _)
  | fail fault =>
    rw [run, layout]
    exact fun _ => rfl
  | _ =>
    rw [run, layout]
    exact Layout.endsAs_modify _ _

/-- **Steps end as their layout**, whatever they are run on. -/
theorem result_layoutAll (steps : List Step) (depth : Nat) :
    (layoutAll depth steps).EndsAs (runAll steps) := by
  cases steps with
  | nil =>
    rw [runAll, layoutAll]
    exact fun _ => rfl
  | cons step rest =>
    rw [runAll, layoutAll]
    exact (result_layout step depth).append (result_layoutAll rest depth)

end

/-! ### Texts on their lines -/

mutual

/-- What the step writes as it is stays on its line; values are quoted where they have to be. -/
def Unbroken : Step → Prop
  | line text => Text.Unbroken text
  | comment text => Text.Unbroken text
  | key name => Text.Unbroken name
  | scalar name _ => Text.Unbroken name
  | quoted name _ => Text.Unbroken name
  | raw name value => Text.Unbroken name ∧ Text.Unbroken value
  | block name body => Text.Unbroken name ∧ UnbrokenAll body
  | itemBlock body => UnbrokenAll body
  | quotedMap name _ => Text.Unbroken name
  | _ => True

/-- The same for every step of a list. -/
def UnbrokenAll : List Step → Prop
  | [] => True
  | step :: rest => step.Unbroken ∧ UnbrokenAll rest

end

end Step

namespace Scalar

theorem unbroken_quote (value : String) : Text.Unbroken (quote value) :=
  Text.unbroken_of_noControl (Reading.noControl_quote value)

theorem unbroken_write (value : String) : Text.Unbroken (write value) :=
  (Reading.onOneLine_iff.mp (Reading.onOneLine_write value)).1

end Scalar

namespace Step

theorem unbroken_header {name : String} (unbroken : Text.Unbroken name) :
    Text.Unbroken (name ++ ":") := Text.unbroken_append.mpr ⟨unbroken, by decide⟩

theorem unbroken_field {name value : String} (unbroken : Text.Unbroken name)
    (single : Text.Unbroken value) : Text.Unbroken (name ++ ": " ++ value) := by
  rw [Text.unbroken_append, Text.unbroken_append]
  exact ⟨⟨unbroken, by decide⟩, single⟩

mutual

/-- **Every line of a step is one line** if its texts are. -/
theorem unbroken_layout (step : Step) (unbroken : step.Unbroken) (depth : Nat) :
    (step.layout depth).Unbroken := by
  cases step with
  | deeper => exact List.forall_mem_nil _
  | shallower => exact List.forall_mem_nil _
  | fail fault => exact List.forall_mem_nil _
  | blank => exact Layout.unbroken_single (by decide)
  | line text => exact Layout.unbroken_single unbroken
  | comment text => exact Layout.unbroken_single (Text.unbroken_append.mpr ⟨by decide, unbroken⟩)
  | key name => exact Layout.unbroken_single (unbroken_header unbroken)
  | scalar name value =>
    exact Layout.unbroken_single (unbroken_field unbroken (Scalar.unbroken_write value))
  | quoted name value =>
    exact Layout.unbroken_single (unbroken_field unbroken (Scalar.unbroken_quote value))
  | raw name value => exact Layout.unbroken_single (unbroken_field unbroken.1 unbroken.2)
  | item value =>
    exact Layout.unbroken_single
      (Text.unbroken_append.mpr ⟨by decide, Scalar.unbroken_write value⟩)
  | quotedItem value =>
    exact Layout.unbroken_single
      (Text.unbroken_append.mpr ⟨by decide, Scalar.unbroken_quote value⟩)
  | block name body =>
    rw [layout]
    exact (Layout.unbroken_single (unbroken_header unbroken.1)).append
      (unbroken_layoutAll body unbroken.2 (depth + 1))
  | itemBlock body =>
    rw [layout]
    exact Layout.unbroken_opened (unbroken_layoutAll body unbroken (depth + 1))
  | quotedMap name entries =>
    rw [layout]
    refine List.forall_mem_cons.mpr ⟨unbroken_header unbroken, fun line member => ?_⟩
    obtain ⟨entry, _, rfl⟩ := List.mem_map.mp member
    exact unbroken_field (Scalar.unbroken_write entry.1) (Scalar.unbroken_quote entry.2)

/-- **Every line of steps is one line** if their texts are. -/
theorem unbroken_layoutAll (steps : List Step) (unbroken : UnbrokenAll steps) (depth : Nat) :
    (layoutAll depth steps).Unbroken := by
  cases steps with
  | nil => exact List.forall_mem_nil _
  | cons step rest =>
    rw [layoutAll]
    exact (unbroken_layout step unbroken.1 depth).append
      (unbroken_layoutAll rest unbroken.2 depth)

end

/-- **The text that nested steps add is their nesting.** Run on any emitter with no item to be
opened, they leave its depth as it was and no item to be opened, and add to its text one line for
each of their events, in order and up to the first failure. They end with that failure, and so does
every block and every item of which they are the body, wherever it is run. -/
theorem nested_steps_written {steps : List Step} (nested : NestedAll steps)
    (unbroken : UnbrokenAll steps) (emitter : Emitter) (settled : emitter.pendingItem = false) :
    ∃ written after added, Performed (eventsAll emitter.depth steps) written ∧
      (runAll steps).apply emitter = (written.outcome, after) ∧
      after.depth = emitter.depth ∧ after.pendingItem = false ∧
      after.text = emitter.text ++ added ∧
      Text.HasLines added (written.lines.map Line.written) ∧
      ∀ name other, ((block name steps).run.apply other).1 = written.outcome ∧
        ((itemBlock steps).run.apply other).1 = written.outcome := by
  obtain ⟨lines, depth, pending⟩ := emitter
  obtain rfl : pending = false := settled
  have unbroken := unbroken_layoutAll steps unbroken depth
  refine ⟨layoutAll depth steps, _, _, performed_layoutAll steps depth,
    runAll_layout steps nested depth lines, rfl, rfl, ?text, unbroken.hasLines, ?enclosing⟩
  case text => simp [Emitter.text, Function.comp_def]
  case enclosing =>
    have body := result_layoutAll steps depth
    intro name other
    constructor
    · rw [run]
      exact ((Layout.endsAs_modify [] _).append (body.around _ _)) other
    · rw [run]
      exact body.around _ _ other

theorem nested_steps_written_failing :
    let fault := Fault.missing "driver" "mode"
    let steps := [block "configs" [itemBlock [scalar "source" "app", fail fault, key "more"]],
      comment "end"]
    NestedAll steps ∧ UnbrokenAll steps ∧
      ∃ written after added, Performed (eventsAll 1 steps) written ∧
        (runAll steps).apply ⟨["web:"], 1, false⟩ = (written.outcome, after) ∧
        written.outcome = .error fault ∧ after.depth = 1 ∧ after.pendingItem = false ∧
        after.text = "web:\n" ++ added ∧ Text.HasLines added ["  configs:", "    - source: app"] ∧
        ∀ name other, ((block name steps).run.apply other).1 = .error fault := by
  intro fault steps
  have nested : NestedAll steps := by simp [steps, NestedAll, Nested, beginsLine]
  have unbroken : UnbrokenAll steps := by
    simp only [steps, UnbrokenAll, Unbroken]
    decide
  obtain ⟨written, after, added, performed, ran, depth, settled, text, lines, enclosing⟩ :=
    nested_steps_written nested unbroken ⟨["web:"], 1, false⟩ rfl
  have ended : Except.error fault = written.outcome := congrArg Prod.fst ran
  have left : ⟨["web:", "  configs:", "    - source: app"], 1, false⟩ = after :=
    congrArg Prod.snd ran
  have same : added = "  configs:\n    - source: app\n" := by
    rw [← left] at text
    exact (String.append_right_inj _).mp text.symm
  refine ⟨nested, unbroken, written, after, added, performed, ran, ended.symm, depth, settled,
    text, ?_, fun name other => ended ▸ (enclosing name other).1⟩
  rw [same]
  rfl

end Step

end ContainerStack.Yaml
