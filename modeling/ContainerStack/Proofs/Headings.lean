import ContainerStack.Proofs.ManifestLines

/-!
**Keys with something below them.**

A line that ends in a colon is a heading: what it stands for are the deeper lines below it. Steps
that write something under each of their keys write lines where every heading has a line one level
deeper directly below it, whatever strings they hold.

* `Text.isHeading`: whether a line ends in a colon.
* `Text.BeginsAt`, `Text.Opens`: lines with a line one level deeper below every heading.
* `Step.Filled`: under every key of the step there is something to write.
* `Step.opened`: such steps write such lines.
-/

namespace ContainerStack

open Yaml
open Yaml.Reading
open Yaml.Outline
open Yaml.Step (layoutAll)

/-! ### Headings -/

namespace Text

/-- Whether a line ends in a colon. -/
def isHeading (line : String) : Bool := line.toList.getLast? == some ':'

theorem isHeading_append {first : String} (quiet : isHeading first = false) (second : String) :
    isHeading (first ++ second) = isHeading second := by
  unfold isHeading at quiet ⊢
  rw [String.toList_append, List.getLast?_append]
  cases second.toList.getLast? with
  | none => exact quiet
  | some last => rfl

/-- How a line ends decides. -/
theorem isHeading_ending (first : String) {ending : String}
    (full : ending.toList.getLast?.isSome = true) :
    isHeading (first ++ ending) = isHeading ending := by
  unfold isHeading
  rw [String.toList_append, List.getLast?_append, Option.or_of_isSome full]

/-- **What is written between quotes is no heading.** -/
theorem isHeading_quote (value : String) : isHeading (Scalar.quote value) = false :=
  isHeading_ending _ (by decide)

/-- **No scalar is a heading**: a string that ends in a colon is quoted. -/
theorem isHeading_write (value : String) : isHeading (Scalar.write value) = false := by
  unfold Scalar.write
  split
  · exact isHeading_quote value
  · rename_i safe
    simp only [Scalar.needsQuotes, Bool.or_eq_true, not_or, Bool.not_eq_true] at safe
    exact safe.1.2

theorem isHeading_flowList (words : List String) : isHeading (Scalar.flowList words) = false :=
  isHeading_ending _ (by decide)

/-- A colon at its end is not part of a plain word. -/
theorem plainFrom_colon (blanks before : List Char) :
    Reading.plainFrom blanks (before ++ [':']) ≠ (blanks ++ (before ++ [':']), []) := by
  induction before generalizing blanks with
  | nil => simp [Reading.plainFrom, atGap, Source.isSpace]
  | cons char rest ih =>
    intro read
    rw [List.cons_append, Reading.plainFrom] at read
    split at read
    · exact ih (blanks ++ [char]) (by simpa using read)
    split at read
    · simp at read
    · simp only [Prod.mk.injEq, List.append_cancel_left_eq, List.cons.injEq, true_and] at read
      exact ih [] (Prod.ext read.1 read.2)

theorem isHeading_plain {word : String} (plain : Plain word.toList) : isHeading word = false := by
  cases heading : isHeading word with
  | false => rfl
  | true =>
    obtain ⟨before, chars⟩ := List.getLast?_eq_some_iff.mp (eq_of_beq heading)
    have read := plain.2.2
    rw [chars] at read
    exact absurd read (plainFrom_colon [] before)

/-! ### Lines below headings -/

/-- The first of some lines begins at a column. -/
def BeginsAt (column : Nat) (lines : List String) : Prop :=
  ∃ first ∈ lines.head?, indent first = column

/-- Directly below every heading stands a line that is one level deeper. -/
def Opens : List String → Prop
  | [] => True
  | line :: below => (isHeading line = true → BeginsAt (indent line + 2) below) ∧ Opens below

theorem BeginsAt.append {column : Nat} {lines : List String} (begins : BeginsAt column lines)
    (more : List String) : BeginsAt column (lines ++ more) := by
  obtain ⟨first, head, here⟩ := begins
  cases lines with
  | nil => cases head
  | cons line rest => exact ⟨first, head, here⟩

theorem Opens.append {first second : List String} (one : Opens first) (two : Opens second) :
    Opens (first ++ second) := by
  induction first with
  | nil => exact two
  | cons line rest ih => exact ⟨fun heading => (one.1 heading).append second, ih one.2⟩

end Text

namespace Yaml

theorem isHeading_entry (key : String) {value : String} (quiet : Text.isHeading value = false) :
    Text.isHeading (key ++ ": " ++ value) = false := by
  rw [Text.isHeading_append (Text.isHeading_ending key (by decide)), quiet]

theorem Line.isHeading_written (line : Line) :
    Text.isHeading line.written = Text.isHeading line.text := by
  refine Text.isHeading_append ?_ line.text
  unfold Text.isHeading Emitter.indentation
  rw [String.toList_ofList, List.getLast?_replicate]
  split <;> rfl

/-! ### Steps -/

namespace Step

/-- Under every key of the step there is something to write, and what is written as it is does not
look like a key. -/
inductive Filled : Step → Prop
  | comment {text : String} : Text.isHeading text = false → Filled (comment text)
  | scalar {key : String} (value : String) : Plain key.toList → Filled (scalar key value)
  | quoted {key : String} (value : String) : Plain key.toList → Filled (quoted key value)
  | raw {key value : String} : Plain key.toList → Text.isHeading value = false →
      Filled (raw key value)
  | item (value : String) : Filled (item value)
  | quotedItem (value : String) : Filled (quotedItem value)
  | block {key : String} {body : List Step} : Plain key.toList → body ≠ [] →
      (∀ step ∈ body, Filled step) → Filled (block key body)
  /-- The first line of an item has a value. -/
  | itemBlock (key value : String) {rest : List Step} : (∀ step ∈ rest, Filled step) →
      Filled (itemBlock (Step.scalar key value :: rest))
  | quotedMap {key : String} {entries : List (String × String)} : Plain key.toList →
      entries ≠ [] → Filled (quotedMap key entries)

/-- At a depth, the steps write lines that begin there and are not less deep, with a line one level
deeper below every heading. -/
structure Opened (depth : Nat) (steps : List Step) : Prop where
  succeeds : (layoutAll depth steps).outcome = .ok ()
  begins : steps ≠ [] → Text.BeginsAt (2 * depth) (Manifest.linesOf depth steps)
  deep : ∀ line ∈ Manifest.linesOf depth steps, 2 * depth ≤ Text.indent line
  opens : Text.Opens (Manifest.linesOf depth steps)

theorem layoutAll_quoted (depth : Nat) (entries : List (String × String)) :
    layoutAll depth (entries.map fun entry => .quoted (Scalar.write entry.1) entry.2) =
      ⟨entries.map fun entry => ⟨depth, mapLine entry⟩, .ok ()⟩ := by
  induction entries with
  | nil => rfl
  | cons entry rest ih =>
    rw [List.map_cons, layoutAll, layout, ih]
    rfl

namespace Opened

variable {depth : Nat} {key text : String} {body rest : List Step} {step : Step}

theorem nil : Opened depth [] :=
  ⟨rfl, fun full => absurd rfl full, List.forall_mem_nil _, trivial⟩

theorem cons (one : Opened depth [step]) (others : Opened depth rest) :
    Opened depth (step :: rest) := by
  have begun := one.succeeds
  rw [layoutAll_singleton] at begun
  have layout : layoutAll depth (step :: rest) =
      ⟨(step.layout depth).lines ++ (layoutAll depth rest).lines,
        (layoutAll depth rest).outcome⟩ := by
    rw [layoutAll, Layout.append, begun]
  have lines : Manifest.linesOf depth (step :: rest) =
      Manifest.linesOf depth [step] ++ Manifest.linesOf depth rest := by
    rw [Manifest.linesOf, layout, List.map_append, Manifest.linesOf, layoutAll_singleton]
    rfl
  refine ⟨by rw [layout]; exact others.succeeds, fun _ => ?_, ?_, ?_⟩
  · rw [lines]
    exact (one.begins (List.cons_ne_nil _ _)).append _
  · rw [lines]
    exact List.forall_mem_append.mpr ⟨one.deep, others.deep⟩
  · rw [lines]
    exact one.opens.append others.opens

theorem all {steps : List Step} (each : ∀ step ∈ steps, Opened depth [step]) :
    Opened depth steps := by
  induction steps with
  | nil => exact nil
  | cons step rest ih =>
    exact (each step List.mem_cons_self).cons
      (ih fun other member => each other (List.mem_cons_of_mem step member))

/-- **A line above deeper ones.** If it is a heading, there has to be something below it. -/
theorem under (writes : step.layout depth =
      .append (.single ⟨depth, text⟩) (layoutAll (depth + 1) body))
    (flush : Text.indent text = 0) (full : Text.isHeading text = true → body ≠ [])
    (inner : Opened (depth + 1) body) : Opened depth [step] := by
  have lines : Manifest.linesOf depth [step] =
      Line.written ⟨depth, text⟩ :: Manifest.linesOf (depth + 1) body := by
    rw [Manifest.linesOf, layoutAll_singleton, writes]
    rfl
  have column : Text.indent (Line.written ⟨depth, text⟩) = 2 * depth := by
    rw [Manifest.indent_written, flush]
    rfl
  refine ⟨?succeeds, fun _ => ?begins, ?deep, ?opens⟩
  case succeeds =>
    rw [layoutAll_singleton, writes]
    exact inner.succeeds
  case begins =>
    rw [lines]
    exact ⟨_, rfl, column⟩
  case deep =>
    rw [lines]
    refine List.forall_mem_cons.mpr ⟨Nat.le_of_eq column.symm, fun line member => ?_⟩
    have deeper := inner.deep line member
    omega
  case opens =>
    rw [lines]
    refine ⟨fun heading => ?_, inner.opens⟩
    rw [Line.isHeading_written] at heading
    rw [column]
    exact inner.begins (full heading)

/-- A line with a value, which is no heading. -/
theorem line (writes : step.layout depth = .single ⟨depth, text⟩) (flush : Text.indent text = 0)
    (quiet : Text.isHeading text = false) : Opened depth [step] :=
  @under depth text [] step (by rw [writes]; rfl) flush
    (fun heading => by rw [quiet] at heading; cases heading) nil

theorem entry {written value : String} (keyOf : KeyOf written.toList key)
    (quiet : Text.isHeading value = false)
    (writes : step.layout depth = .single ⟨depth, written ++ ": " ++ value⟩) :
    Opened depth [step] :=
  line writes (by rw [String.append_assoc, Manifest.indent_keyOf keyOf])
    (isHeading_entry written quiet)

theorem dash {value : String} (quiet : Text.isHeading value = false)
    (writes : step.layout depth = .single ⟨depth, "- " ++ value⟩) : Opened depth [step] :=
  line writes (Text.indent_append (by decide) value)
    (by rw [Text.isHeading_append (by decide), quiet])

/-- **A block opens its lines if its body does** and is not empty. -/
theorem block (plain : Plain key.toList) (full : body ≠ []) (inner : Opened (depth + 1) body) :
    Opened depth [.block key body] :=
  under (by rw [layout]) (Manifest.indent_key plain) (fun _ => full) inner

/-- A map of quoted values is written as a block of them. -/
theorem quotedMap {entries : List (String × String)} (plain : Plain key.toList)
    (full : entries ≠ []) : Opened depth [.quotedMap key entries] := by
  refine under (by rw [layout, layoutAll_quoted]; rfl) (Manifest.indent_key plain)
    (fun _ => by simpa using full) (.all fun step member => ?_)
  obtain ⟨entry, _, rfl⟩ := List.mem_map.mp member
  exact .entry (keyOf_write entry.1) (Text.isHeading_quote entry.2) (by rw [layout])

/-- **An item opens its lines if what follows its first line does.** -/
theorem itemBlock (key value : String) (others : Opened (depth + 1) rest) :
    Opened depth [.itemBlock (.scalar key value :: rest)] := by
  have quiet : Text.isHeading ("- " ++ (key ++ ": " ++ Scalar.write value)) = false := by
    rw [Text.isHeading_append (by decide), isHeading_entry key (Text.isHeading_write value)]
  exact under (by rw [layout, layoutAll, layout]; rfl) (Text.indent_append (by decide) _)
    (fun heading => by rw [quiet] at heading; cases heading) others

end Opened

/-- **Steps that write something under each of their keys** open their lines, at every depth. -/
theorem Filled.opened {step : Step} (filled : step.Filled) (depth : Nat) :
    Opened depth [step] := by
  induction filled generalizing depth with
  | comment quiet =>
    exact .line (by rw [layout]) (Text.indent_append (by decide) _)
      (by rw [Text.isHeading_append (by decide), quiet])
  | scalar value plain =>
    exact .entry (keyOf_plain plain) (Text.isHeading_write value) (by rw [layout])
  | quoted value plain =>
    exact .entry (keyOf_plain plain) (Text.isHeading_quote value) (by rw [layout])
  | raw plain quiet => exact .entry (keyOf_plain plain) quiet (by rw [layout])
  | item value => exact .dash (Text.isHeading_write value) (by rw [layout])
  | quotedItem value => exact .dash (Text.isHeading_quote value) (by rw [layout])
  | block plain full _ ih =>
    exact .block plain full (.all fun step member => ih step member (depth + 1))
  | itemBlock key value _ ih =>
    -- The marker moves the first line to the left, but a line with a value needs nothing below it.
    exact .itemBlock key value (.all fun step member => ih step member (depth + 1))
  | quotedMap plain full => exact .quotedMap plain full

end Step

end Yaml

end ContainerStack
