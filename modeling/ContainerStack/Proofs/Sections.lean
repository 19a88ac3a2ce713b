import ContainerStack.Proofs.Bodies

/-!
**No key of a manifest is without a body.**

The lines of a manifest that are not indented are the keys of its sections. Below every heading
stands a line that is one level deeper; only the name of a volume that sets nothing stands alone.

* `Text.Covered`: lines whose headings have a body, unless they may stand alone where they stand.
* `Text.Arranged`: lines of whole sections.
* `Volume.setsNothing`, `Stack.StandsAlone`: the one heading that stands alone.
* `Stack.sectionKeys`: the keys of the sections that have entries.
* `headings_covered`: every manifest that is rendered is arranged so.
-/

namespace ContainerStack

open Yaml
open Yaml.Outline
open Yaml.Reading (Plain)
open Yaml.Step (FilledAll Filled)

/-! ### Lines between others -/

namespace Text

variable {alone : List String → String → Prop} {above below lines first second : List String}

/-- The lines that are not indented. -/
def outermost (lines : List String) : List String := lines.filter fun line => indent line == 0

theorem outermost_append (first second : List String) :
    outermost (first ++ second) = outermost first ++ outermost second := List.filter_append _ _

theorem outermost_cons {line : String} (flush : indent line = 0) (rest : List String) :
    outermost (line :: rest) = line :: outermost rest :=
  List.filter_cons_of_pos (by simp [flush])

theorem outermost_deeper (deep : ∀ line ∈ lines, 0 < indent line) : outermost lines = [] :=
  List.filter_eq_nil_iff.mpr fun line member => by
    have indented := deep line member
    simp only [beq_iff_eq]
    omega

/-- Among lines that stand between others, a heading has a line one level deeper directly below it,
unless it may stand alone below what is above it. -/
def Covered (alone : List String → String → Prop) :
    List String → List String → List String → Prop
  | _, [], _ => True
  | above, line :: rest, below =>
    (isHeading line = true → (BeginsAt (indent line + 2) (rest ++ below) ↔ ¬alone above line)) ∧
      Covered alone (above ++ [line]) rest below

theorem covered_append : Covered alone above (first ++ second) below ↔
    Covered alone above first (second ++ below) ∧ Covered alone (above ++ first) second below := by
  induction first generalizing above with
  | nil => simp [Covered]
  | cons line rest ih => simp [Covered, ih, and_assoc]

/-- **Lines that open** are covered where none of them may stand alone. -/
theorem Opens.covered (opens : Opens lines)
    (none : ∀ before line after, lines = before ++ line :: after → ¬alone (above ++ before) line) :
    Covered alone above lines below := by
  induction lines generalizing above with
  | nil => trivial
  | cons line rest ih =>
    refine ⟨fun heading => ?_, ih opens.2 fun before other after split => ?_⟩
    · have here := none [] line rest rfl
      rw [List.append_nil] at here
      exact iff_of_true ((opens.1 heading).append below) here
    · have later := none (line :: before) other after (congrArg (line :: ·) split)
      rwa [List.append_assoc]

end Text

namespace Manifest

/-- The section that lines end in: the last of them that is not indented. -/
def sectionOf (above : List String) : Option String := (Text.outermost above).getLast?

theorem sectionOf_key (above : List String) {key : String} (flush : Text.indent key = 0) :
    sectionOf (above ++ [key]) = some key := by
  rw [sectionOf, Text.outermost_append, Text.outermost_cons flush, List.getLast?_append]
  rfl

theorem sectionOf_deeper (above : List String) {lines : List String}
    (deep : ∀ line ∈ lines, 0 < Text.indent line) :
    sectionOf (above ++ lines) = sectionOf above := by
  rw [sectionOf, Text.outermost_append, Text.outermost_deeper deep, List.append_nil, sectionOf]

end Manifest

/-! ### Volumes -/

/-- The volume is managed by the stack, by the driver of the host without options, and has no
labels. -/
def Volume.setsNothing (volume : Volume) : Bool :=
  !volume.external.any External.isExternal && volume.storage.isPlain && volume.labels.isEmpty

/-- The line is the name of a volume that sets nothing, in the section of the volumes. -/
def Stack.StandsAlone (stack : Stack) (above : List String) (line : String) : Prop :=
  Manifest.sectionOf above = some "volumes:" ∧
    ∃ volume ∈ stack.volumes.toList, volume.setsNothing = true ∧ line = "  " ++ volume.name ++ ":"

namespace Manifest

variable {stack : Stack} {volume : Volume} {above below : List String}

theorem indent_standsAlone (sound : stack.Sound) {line : String}
    (stands : stack.StandsAlone above line) : Text.indent line = 2 := by
  obtain ⟨_, volume, listed, _, rfl⟩ := stands
  exact indent_entity (sound.volumes.of_mem listed).named

theorem setsNothing_eq (volume : Volume) : volume.setsNothing =
    (volume.shownExternal.isNone && volume.shownStorage.isNone && volume.labels.isEmpty) := by
  have external : volume.shownExternal.isNone = !volume.external.any External.isExternal := by
    unfold Volume.shownExternal
    cases volume.external with
    | none => rfl
    | some external => cases shown : external.isExternal <;> simp [shown]
  have storage : volume.shownStorage.isNone = volume.storage.isPlain := by
    unfold Volume.shownStorage
    split <;> simp_all
  rw [Volume.setsNothing, external, storage]

theorem volumeSteps_eq (volume : Volume) : volumeSteps volume =
    if volume.setsNothing then .key volume.name else .block volume.name (volumeBody volume) := by
  rw [volumeSteps, setsNothing_eq]

theorem linesOf_key (name : String) : linesOf 1 [.key name] = ["  " ++ name ++ ":"] := by
  rw [linesOf, Reading.layoutAll_singleton, Step.layout, String.append_assoc]
  rfl

theorem linesOf_entity (name : String) (body : List Step) :
    linesOf 1 [.block name body] = ("  " ++ name ++ ":") :: linesOf 2 body := by
  rw [linesOf_block, String.append_assoc]
  rfl

theorem opened_volume (volume : Volume) : Step.Opened 2 (volumeBody volume) :=
  .all fun step member => (filled_volume volume step member).opened 2

/-- **The lines of a volume are one block.** -/
theorem isBlock_volume (volume : Volume) :
    IsBlock volume.name (linesOf 1 [volumeSteps volume]) := by
  rw [volumeSteps_eq]
  split
  · exact ⟨[], linesOf_key volume.name, List.forall_mem_nil _⟩
  · refine ⟨_, linesOf_entity volume.name _, fun line member => ?_⟩
    have deep := (opened_volume volume).deep line member
    omega

/-- **The name of a volume stands alone exactly if the volume sets nothing.** -/
theorem covered_volume (sound : stack.Sound) (listed : volume ∈ stack.volumes.toList)
    (inside : sectionOf above = some "volumes:")
    (shallow : ∀ next ∈ below.head?, Text.indent next ≤ 2) :
    Text.Covered stack.StandsAlone above (linesOf 1 [volumeSteps volume]) below := by
  have named := (sound.volumes.of_mem listed).named
  rw [volumeSteps_eq]
  split
  · rename_i bare
    rw [linesOf_key]
    refine ⟨fun _ => iff_of_false ?_ (not_not.mpr ⟨inside, volume, listed, bare, rfl⟩), trivial⟩
    rintro ⟨next, head, deeper⟩
    have least := shallow next head
    rw [indent_entity named] at deeper
    omega
  · rename_i shown
    have full : volumeBody volume ≠ [] := by
      rwa [Ne, volumeBody_eq_nil, ← setsNothing_eq]
    have plain := Reading.plain_of_isEntityName named
    refine (Step.Opened.block plain full (opened_volume volume)).opens.covered
      fun before line after split stands => ?_
    rw [linesOf_entity] at split
    -- Names are distinct, so no other volume has this name; the lines below it are deeper.
    cases before with
    | nil =>
      obtain ⟨_, other, alsoListed, bare, line⟩ := stands
      cases split
      have name : volume.name = other.name := by simpa [← String.toList_inj] using line
      exact shown (sound.volumes.eq_of_name listed alsoListed name ▸ bare)
    | cons first rest =>
      have inner : linesOf 2 (volumeBody volume) = rest ++ line :: after :=
        (List.cons.inj split).2
      have deep := (opened_volume volume).deep line (by simp [inner])
      have shallow := indent_standsAlone sound stands
      omega

/-- A block begins with the line of its name, which is indented by one level. -/
theorem IsBlock.begins {name : String} {lines : List String} (isBlock : IsBlock name lines)
    (named : isEntityName name = true) : Text.BeginsAt 2 lines := by
  obtain ⟨_, rfl, _⟩ := isBlock
  exact ⟨_, rfl, indent_entity named⟩

theorem IsBlock.deep {name : String} {lines : List String} (isBlock : IsBlock name lines)
    (named : isEntityName name = true) : ∀ line ∈ lines, 2 ≤ Text.indent line := by
  obtain ⟨deeper, rfl, deep⟩ := isBlock
  refine List.forall_mem_cons.mpr ⟨Nat.le_of_eq (indent_entity named).symm, fun line member => ?_⟩
  exact Nat.le_of_lt (deep line member)

section Volumes

variable (sound : stack.Sound) {volumes : List Volume}
  (listed : ∀ volume ∈ volumes, volume ∈ stack.volumes.toList)
  (written : WrittenAll 1 (volumes.map volumeSteps))

include sound listed

theorem deep_volumes : ∀ line ∈ linesOf 1 (volumes.map volumeSteps), 2 ≤ Text.indent line :=
  le_indent (Reading.Reads.map fun volume member =>
    reads_volume (sound.volumes.of_mem (listed volume member)).named)

include written

theorem begins_volumes (full : volumes ≠ []) :
    Text.BeginsAt 2 (linesOf 1 (volumes.map volumeSteps)) := by
  cases volumes with
  | nil => exact absurd rfl full
  | cons volume rest =>
    have named := (sound.volumes.of_mem (listed volume List.mem_cons_self)).named
    rw [List.map_cons, linesOf_cons written]
    exact ((isBlock_volume volume).begins named).append _

/-- **The names of volumes stand alone exactly if they set nothing.** -/
theorem covered_volumes (inside : sectionOf above = some "volumes:") (flush : Flush below) :
    Text.Covered stack.StandsAlone above (linesOf 1 (volumes.map volumeSteps)) below := by
  induction volumes generalizing above with
  | nil => trivial
  | cons volume rest ih =>
    have here := listed volume List.mem_cons_self
    have later := fun other member => listed other (List.mem_cons_of_mem volume member)
    have others := written.of_cons.2
    rw [List.map_cons, linesOf_cons written, Text.covered_append]
    refine ⟨covered_volume sound here inside fun next head => ?_, ih later others ?_⟩
    · -- What follows a volume is another one, or what follows the section.
      cases rest with
      | nil =>
        rw [flush next head]
        exact Nat.zero_le 2
      | cons other more =>
        obtain ⟨first, begins, column⟩ :=
          (begins_volumes sound later others (List.cons_ne_nil _ _)).append below
        cases Option.mem_unique head begins
        exact Nat.le_of_eq column
    · rw [sectionOf_deeper, inside]
      have named := (sound.volumes.of_mem here).named
      exact fun line member => Nat.lt_of_lt_of_le (by decide)
        ((isBlock_volume volume).deep named line member)

end Volumes

end Manifest

/-! ### Sections -/

namespace Text

/-- Lines of whole sections: the keys of the sections are the lines that are not indented, and
wherever they stand, every heading has a body unless it may stand alone. -/
structure Arranged (alone : List String → String → Prop) (keys lines : List String) : Prop where
  flush : Manifest.Flush lines
  keys : outermost lines = keys
  covered : ∀ above below, Manifest.Flush below → Covered alone above lines below

theorem Arranged.append {alone : List String → String → Prop}
    {first second keys others : List String} (one : Arranged alone keys first)
    (two : Arranged alone others second) : Arranged alone (keys ++ others) (first ++ second) := by
  refine ⟨one.flush.append two.flush, ?_, fun above below flush => covered_append.mpr ⟨?_, ?_⟩⟩
  · rw [outermost_append, one.keys, two.keys]
  · exact one.covered above _ (two.flush.append flush)
  · exact two.covered _ below flush

end Text

namespace Manifest

variable {stack : Stack}

/-- A key, unless there is nothing below it. -/
def keyUnlessEmpty (key : String) (isEmpty : Bool) : List String := if isEmpty then [] else [key]

theorem linesOf_section (key : String) (body : List Step) :
    linesOf 0 [.block key body] = (key ++ ":") :: linesOf 1 body := by
  have start : Emitter.indentation 0 = "" := rfl
  rw [linesOf_block, start, String.empty_append]

/-- **A section** is arranged if what is below its key is covered. -/
theorem arranged_section (sound : stack.Sound) (key : String) (plain : Plain key.toList)
    {body : List Step} (begins : body ≠ [] → Text.BeginsAt 2 (linesOf 1 body))
    (deep : ∀ line ∈ linesOf 1 body, 2 ≤ Text.indent line)
    (inner : ∀ above below, sectionOf above = some (key ++ ":") → Flush below →
      Text.Covered stack.StandsAlone above (linesOf 1 body) below) :
    Text.Arranged stack.StandsAlone (keyUnlessEmpty (key ++ ":") body.isEmpty)
      (linesOf 0 (Step.blockUnlessEmpty key body)) := by
  cases body with
  | nil => exact ⟨nofun, rfl, fun _ _ _ => trivial⟩
  | cons step rest =>
    have flush : Text.indent (key ++ ":") = 0 := indent_key plain
    refine ⟨flush_section plain _, ?keys, fun above below low => ?covered⟩
    case keys =>
      have indented : ∀ line ∈ linesOf 1 (step :: rest), 0 < Text.indent line :=
        fun line member => Nat.lt_of_lt_of_le (by decide) (deep line member)
      rw [Step.blockUnlessEmpty, List.isEmpty_cons, if_neg (by decide), linesOf_section,
        Text.outermost_cons flush, Text.outermost_deeper indented]
      rfl
    case covered =>
      rw [Step.blockUnlessEmpty, List.isEmpty_cons, if_neg (by decide), linesOf_section]
      refine ⟨fun _ => iff_of_true ?_ fun stands => ?_, inner _ _ (sectionOf_key above flush) low⟩
      · rw [flush]
        exact (begins (List.cons_ne_nil _ _)).append below
      · have deeper := indent_standsAlone sound stands
        omega

/-- **A section where nothing may stand alone** is arranged if its steps are filled. -/
theorem arranged_filled (sound : stack.Sound) (key : String) (plain : Plain key.toList)
    (differs : key ++ ":" ≠ "volumes:") {body : List Step} (filled : FilledAll body) :
    Text.Arranged stack.StandsAlone (keyUnlessEmpty (key ++ ":") body.isEmpty)
      (linesOf 0 (Step.blockUnlessEmpty key body)) := by
  have opened : Step.Opened 1 body := .all fun step member => (filled step member).opened 1
  refine arranged_section sound key plain opened.begins opened.deep
    fun above below inside _ => ?_
  refine opened.opens.covered fun before line after split stands => ?_
  have deep : ∀ other ∈ before, 0 < Text.indent other := fun other member =>
    Nat.lt_of_lt_of_le (by decide) (opened.deep other (by simp [split, member]))
  -- All lines above this one but the key are deeper, so the key tells the section.
  have here := stands.1
  rw [sectionOf_deeper above deep, inside] at here
  exact differs (Option.some.inj here)

theorem isEmpty_entities {α : Type} [Named α] (registry : Registry α) (write : α → Step) :
    (registry.toList.map write).isEmpty = registry.isEmpty := by
  rw [List.isEmpty_map]
  exact List.isEmpty_map

/-- The section of the entities of a registry. -/
theorem arranged_entities (sound : stack.Sound) {α : Type} [Named α] (registry : Registry α)
    (key : String) (plain : Plain key.toList) (differs : key ++ ":" ≠ "volumes:")
    {write : α → Step} (filled : ∀ entity ∈ registry.toList, (write entity).Filled) :
    Text.Arranged stack.StandsAlone (keyUnlessEmpty (key ++ ":") registry.isEmpty)
      (linesOf 0 (Step.blockUnlessEmpty key (registry.toList.map write))) := by
  rw [← isEmpty_entities registry write]
  exact arranged_filled sound key plain differs (FilledAll.map filled)

theorem arranged_volumes (sound : stack.Sound) :
    Text.Arranged stack.StandsAlone (keyUnlessEmpty "volumes:" stack.volumes.isEmpty)
      (linesOf 0 (Step.blockUnlessEmpty "volumes" (stack.volumes.toList.map volumeSteps))) := by
  have listed : ∀ volume ∈ stack.volumes.toList, volume ∈ stack.volumes.toList := fun _ => id
  have written : WrittenAll 1 (stack.volumes.toList.map volumeSteps) :=
    .of_reads (Reading.Reads.map fun volume member =>
      reads_volume (sound.volumes.of_mem member).named)
  rw [← isEmpty_entities stack.volumes volumeSteps]
  refine arranged_section sound "volumes" (by decide) (fun full => ?_) (deep_volumes sound listed)
    fun above below => covered_volumes sound listed written
  exact begins_volumes sound listed written fun empty => full (by rw [empty]; rfl)

end Manifest

/-- The keys of the sections that have entries, in order. -/
def Stack.sectionKeys (stack : Stack) : List String :=
  Manifest.keyUnlessEmpty "services:" stack.services.isEmpty ++
    (Manifest.keyUnlessEmpty "volumes:" stack.volumes.isEmpty ++
      Manifest.keyUnlessEmpty "networks:" stack.networks.isEmpty ++
      Manifest.keyUnlessEmpty "secrets:" stack.secrets.isEmpty ++
      Manifest.keyUnlessEmpty "configs:" stack.configs.isEmpty)

namespace Manifest

variable {stack : Stack}

/-- A manifest that is written has services, so their section is there. -/
theorem services_eq_ok (sound : stack.Sound) {written : List Step}
    (made : steps stack = .ok written) :
    ∃ services, stack.renderOrder.mapM (serviceSteps stack) = .ok services ∧
      services.isEmpty = stack.services.isEmpty ∧
      written = Step.blockUnlessEmpty "services" services ++ sectionSteps stack := by
  obtain ⟨services, served, same⟩ := steps_eq_ok made
  have nonempty : stack.services.isEmpty = false := by
    unfold steps at made
    split at made
    · cases made
    · rename_i nonempty
      exact Bool.eq_false_iff.mpr nonempty
  have full : services.isEmpty = false := by
    rw [List.isEmpty_eq_false_iff]
    rintro rfl
    have order := (Edit.mapM_eq_ok.mp served).length_eq
    rw [List.length_nil, List.length_eq_zero_iff, sound.renderOrder_eq_nil, nonempty] at order
    cases order
  refine ⟨services, served, full.trans nonempty.symm, ?_⟩
  rw [same, Step.blockUnlessEmpty, full]
  rfl

/-- **The lines of a manifest are arranged.** -/
theorem arranged_lines (sound : stack.Sound)
    (built : ∀ service ∈ stack.services.toList, ∀ check ∈ service.healthcheck, check.Built)
    {written : List Step} (made : steps stack = .ok written) :
    Text.Arranged stack.StandsAlone stack.sectionKeys (lines stack) := by
  obtain ⟨parts, reads, _⟩ := reads_steps sound made
  have all : WrittenAll 0 written := .of_reads reads
  rw [← linesOf_steps sound made]
  obtain ⟨services, served, isEmpty, rfl⟩ := services_eq_ok sound made
  have first := arranged_filled sound "services" (by decide) (by decide)
    (filled_services sound built served)
  rw [isEmpty] at first
  have others := all.of_append.2
  rw [linesOf_append all, sectionSteps, linesOf_append others, linesOf_append others.of_append.1,
    linesOf_append others.of_append.1.of_append.1]
  refine first.append ?_
  exact arranged_volumes sound
    |>.append (arranged_entities sound stack.networks "networks" (by decide) (by decide)
      fun _ listed => filled_network (sound.networks.of_mem listed).named)
    |>.append (arranged_entities sound stack.secrets "secrets" (by decide) (by decide)
      fun _ listed => filled_secret (sound.secrets.of_mem listed))
    |>.append (arranged_entities sound stack.configs "configs" (by decide) (by decide)
      fun _ listed => filled_configEntry (sound.configs.of_mem listed))

end Manifest

/-- **No key of a manifest is without a body.** In every manifest that is rendered after a run of
operations, a line that ends in a colon has a line one level deeper directly below it; the name of a
volume that sets nothing is the only one that has not. The lines that are not indented are the keys
of the sections that have entries. -/
theorem headings_covered {stack : Stack} (reached : stack.Reached)
    (built : ∀ service ∈ stack.services.toList, ∀ check ∈ service.healthcheck, check.Built)
    {text : String} (rendered : (Stack.renderManifest.apply stack).1 = .ok text) :
    ∃ lines, Text.HasLines text lines ∧
      (∀ before line after, lines = before ++ line :: after → Text.isHeading line = true →
        (Text.BeginsAt (Text.indent line + 2) after ↔ ¬stack.StandsAlone before line)) ∧
      Text.outermost lines = stack.sectionKeys := by
  have sound := reached.sound
  rw [Manifest.renderManifest_eq sound] at rendered
  obtain ⟨written, made, _⟩ := Edit.bind_eq_ok.mp rendered
  have arranged := Manifest.arranged_lines sound built made
  refine ⟨_, Manifest.hasLines_text sound rendered, fun before line after split heading => ?_,
    arranged.keys⟩
  have covered := arranged.covered [] [] nofun
  rw [split, Text.covered_append] at covered
  have here := covered.2.1 heading
  rwa [List.nil_append, List.append_nil] at here

/-- A run that registers a volume that sets nothing, one with a label, and a service whose health
check is turned off and whose deployment holds limits without amounts. -/
def Stack.guardedRun {web : Service} (webCreated : Service.create "web" = .ok web) :
    List Stack.Operation :=
  [.createVolume "data" ⟨none, .empty, none, .empty, none, none, false, none⟩,
    .createVolume "logs" ⟨none, .empty, none, .ofList [("tier", "hot")], none, none, false, none⟩,
    .addService _ (Service.assembled_built webCreated .everything
      [.image "nginx", .healthcheck .disabled,
        .deploy ⟨none, some 2, some ⟨some ⟨none, none⟩, none⟩, none, [], .empty⟩])]

theorem headings_covered_guardedRun :
    ∃ start web, ∃ webCreated : Service.create "web" = .ok web,
      Stack.create "shop" .everything = .ok start ∧
      let left := start.run (Stack.guardedRun webCreated)
      let above := ["services:", "  web:", "    image: nginx", "    healthcheck:",
        "      disable: true", "    deploy:", "      replicas: 2", "volumes:"]
      let below := ["  logs:", "    labels:", "      tier: \"hot\""]
      (Stack.renderManifest.apply left).1 =
        .ok (String.join ((above ++ "  data:" :: below).map (· ++ "\n"))) ∧
      left.StandsAlone above "  data:" ∧ ¬Text.BeginsAt 4 below ∧
      left.sectionKeys = ["services:", "volumes:"] := by
  have created : Stack.create "shop" .everything = .ok _ := rfl
  have reached : Stack.Reached _ := ⟨_, _, _, Stack.guardedRun rfl, created, rfl⟩
  refine ⟨_, _, rfl, created, ?_⟩
  intro left above below
  have rendered : (Stack.renderManifest.apply left).1 =
      .ok (String.join ((above ++ "  data:" :: below).map (· ++ "\n"))) := by rfl
  have stands : left.StandsAlone above "  data:" := ⟨rfl, _, List.mem_cons_self, rfl, rfl⟩
  refine ⟨rendered, stands, fun begins => ?_, rfl⟩
  obtain ⟨lines, has, covered, _⟩ := headings_covered reached (fun service listed check set => by
    cases List.mem_singleton.mp listed
    cases set
    exact .disabled) rendered
  have same : lines = above ++ "  data:" :: below :=
    List.append_cancel_right (has.symm.trans (Text.hasLines_of_unbroken (by decide)))
  exact (covered above _ below same rfl).mp begins stands

end ContainerStack
