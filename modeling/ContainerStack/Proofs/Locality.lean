import ContainerStack.Proofs.Creating
import ContainerStack.Proofs.MainService
import ContainerStack.Proofs.ManifestLines

/-!
**An edit changes its own part of the manifest only.**

An edit of a service changes the block of the service and moves nothing else. The access mode of a
volume is looked up when services are written, so setting it changes the items of the mounts that
leave the mode to the volume, wherever they are, and nothing else.

* `renderOrder_withService`: an edited service is written in the place of the old one.
* `DifferInBlock`, `differ_inBlock`: two manifests are the same but for the block of a service.
* `Volume.ModeCalls`, `Stack.ModeSet`: what calls that set the access mode of a volume can change.
* `SameButItems`, `ModeSet.sameButItems`: two manifests are the same but for the items of mounts.
* `edits_are_local`: both for every stack that is reached.
-/

namespace ContainerStack

open Yaml
open Manifest (lines linesOf serviceLines mountLines mountItem sectionSteps IsBlock)
open Text (HasLines)

namespace Stack

variable {stack : Stack} {name : String}

/-! ### One service -/

/-- The stack with a service in the place of the one of its name. -/
def withService (stack : Stack) (service : Service) : Stack :=
  { stack with services := stack.services.put service.name service }

section Services

variable {service edited : Service} (reached : stack.Reached)
  (reachedAfter : (stack.withService edited).Reached)
  (found : stack.services.get? edited.name = some service)

include reached reachedAfter found

/-- **An edited service is written in the place of the old one**, and all others in theirs. -/
theorem renderOrder_withService : ∃ first last,
    stack.renderOrder = first ++ service :: last ∧
      (stack.withService edited).renderOrder = first ++ edited :: last := by
  have named : service.name = edited.name := (reached.sound.services.get? found).1
  obtain ⟨first, last, before, after⟩ := Registry.toList_put found
  have after : (stack.withService edited).services.toList = first ++ edited :: last := after edited
  cases chosen : stack.mainService with
  | none =>
    have noMain : (stack.withService edited).mainService = none := chosen
    rw [renderOrder_noMain chosen, renderOrder_noMain noMain]
    exact ⟨first, last, before, after⟩
  | some main =>
    obtain ⟨chief, there, _, order⟩ := reached.sound.renderOrder_main reached.mainRegistered chosen
    obtain ⟨chiefAfter, thereAfter, _, orderAfter⟩ :=
      reachedAfter.sound.renderOrder_main reachedAfter.mainRegistered chosen
    have looked : (if main = edited.name then some edited else stack.services.get? main) =
        some chiefAfter := Registry.get?_put.symm.trans thereAfter
    rw [order, orderAfter, before, after]
    by_cases isMain : main = edited.name
    · rw [if_pos isMain] at looked
      cases looked
      rw [isMain, found] at there
      cases there
      -- The main service is left out of the others by its name, before the edit and after it.
      refine ⟨[], (first ++ last).filter fun other => other.name != main, ?_, ?_⟩
      · simp [named, isMain]
      · simp [isMain]
    · rw [if_neg isMain, there] at looked
      cases looked
      have differs : edited.name ≠ main := Ne.symm isMain
      refine ⟨chief :: first.filter fun other => other.name != main,
        last.filter fun other => other.name != main, ?_, ?_⟩
      · simp [named, differs]
      · simp [differs]

end Services

/-- Two texts are the same but for the block of a service. Nothing above the block leaves the
services, and what follows the block is not deeper than the name of the service. -/
def DifferInBlock (name before after : String) : Prop :=
  ∃ above block newBlock below,
    HasLines before ("services:" :: (above ++ block ++ below)) ∧
    HasLines after ("services:" :: (above ++ newBlock ++ below)) ∧
    IsBlock name block ∧ IsBlock name newBlock ∧
    (∀ line ∈ above, 2 ≤ Text.indent line) ∧ ∀ line ∈ below.head?, Text.indent line ≤ 2

section Services

variable {service edited : Service}

/-- What a service writes does not depend on the other services of its stack. -/
theorem lines_withService {first last : List Service}
    (order : (stack.withService edited).renderOrder = first ++ edited :: last) :
    lines (stack.withService edited) =
      let write := serviceLines stack (mountItem stack)
      "services:" :: (first.flatMap write ++ write edited ++
        (last.flatMap write ++ linesOf 0 (sectionSteps stack))) := by
  rw [lines, order, List.flatMap_append, List.flatMap_cons]
  simp only [List.append_assoc]
  rfl

/-- **Putting a service in the place of another one** changes one block of the manifest. -/
theorem differ_inBlock (reached : stack.Reached)
    (reachedAfter : (stack.withService edited).Reached)
    (found : stack.services.get? edited.name = some service) {before after : String}
    (rendered : Manifest.text stack = .ok before)
    (renderedAfter : Manifest.text (stack.withService edited) = .ok after) :
    DifferInBlock edited.name before after := by
  obtain ⟨first, last, order, orderAfter⟩ := renderOrder_withService reached reachedAfter found
  have sound := reached.sound
  have soundAfter := reachedAfter.sound
  have named : service.name = edited.name := (sound.services.get? found).1
  have unchanged : stack.withService service = stack := by
    rw [withService, named, Registry.put_found found]
  have linesBefore := Manifest.hasLines_text sound rendered
  have linesAfter := Manifest.hasLines_text soundAfter renderedAfter
  rw [lines_withService orderAfter] at linesAfter
  rw [← unchanged, lines_withService (by rw [unchanged]; exact order)] at linesBefore
  obtain ⟨made, sections⟩ := Manifest.parts_of_text sound rendered
  obtain ⟨madeAfter, _⟩ := Manifest.parts_of_text soundAfter renderedAfter
  rw [order] at made
  rw [orderAfter] at madeAfter
  have registered : ∀ other ∈ first ++ service :: last, other ∈ stack.services.toList := by
    rw [← order]
    exact fun _ => sound.mem_renderOrder.mp
  refine ⟨_, _, _, _, linesBefore, linesAfter, ?block, ?newBlock, ?above, ?below⟩
  case block =>
    have here : service ∈ first ++ service :: last :=
      List.mem_append_right _ List.mem_cons_self
    obtain ⟨step, made⟩ := made service here
    rw [← named]
    exact Manifest.isBlock_service sound (registered service here) made
  case newBlock =>
    have here : edited ∈ first ++ edited :: last := List.mem_append_right _ List.mem_cons_self
    obtain ⟨step, made⟩ := madeAfter edited here
    have there : edited ∈ (stack.withService edited).services.toList :=
      soundAfter.mem_renderOrder.mp (orderAfter ▸ here)
    have block := Manifest.isBlock_service soundAfter there made
    exact block
  case above =>
    intro line member
    obtain ⟨other, listed, member⟩ := List.mem_flatMap.mp member
    have earlier : other ∈ first ++ service :: last := List.mem_append_left _ listed
    obtain ⟨step, made⟩ := made other earlier
    exact Manifest.le_indent_service sound (registered other earlier) made line member
  case below =>
    cases last with
    | nil =>
      intro line member
      rw [Manifest.flush_sections sections line member]
      exact Nat.zero_le 2
    | cons next rest =>
      rintro line ⟨⟩
      have later : next ∈ first ++ service :: next :: rest := by simp
      exact Nat.le_of_eq (Manifest.indent_name sound (registered next later))

end Services

/-! ### The access mode of one volume -/

end Stack

/-- The calls that set the access mode of a volume. -/
def Volume.ModeCalls (edit : Edit Volume Unit) : Prop := ∃ mode, edit = setAccessMode mode

theorem Volume.leads_mode {before after : Volume} (leads : Edit.Leads ModeCalls before after) :
    ∃ mode, after = { before with accessMode := mode } := by
  refine leads.keeps (fun volume => ∃ mode, volume = { before with accessMode := mode }) ?_
    ⟨before.accessMode, rfl⟩
  rintro _ ⟨mode, rfl⟩ _ ⟨_, rfl⟩
  exact ⟨mode, rfl⟩

/-- An edit of a volume that only sets its access mode, as an edit by setters. -/
def Volume.setsMode (change : Edit.Change Volume.ModeCalls) : Edit.Change Volume.Calls where
  edit := change.edit
  through volume := by
    refine (change.through volume).mono fun edit only => ?_
    obtain ⟨mode, rfl⟩ := only
    exact ⟨.accessMode mode, rfl⟩

namespace Stack

variable {stack : Stack} {name : String}

/-- The second stack is the first, or the first with another access mode of the volume of a name. -/
def ModeSet (name : String) (stack left : Stack) : Prop :=
  left = stack ∨ ∃ volume mode, stack.volumes.get? name = some volume ∧
    left = { stack with
      volumes := stack.volumes.put name { volume with accessMode := mode } }

theorem updateVolume_modeSet (sound : stack.Sound) (name : String)
    (change : Edit.Change Volume.ModeCalls) :
    ModeSet name stack ((updateVolume name change.edit).apply stack).2 := by
  refine ((updateVolume_settles name change.edit).mono fun after step => ?_).left (.inl rfl)
  obtain ⟨volume, _, edited, found, ran, rfl⟩ := step
  have leads := change.through.leads ran
  obtain ⟨mode, rfl⟩ := Volume.leads_mode leads
  have named : volume.name = name := (sound.volumes.get? found).1
  exact .inr ⟨volume, mode, found, by rw [← named]⟩

/-- One call that sets the access mode is never refused for a volume that is there. -/
theorem updateVolume_setAccessMode (sound : stack.Sound) {volume : Volume}
    (found : stack.volumes.get? name = some volume) (mode : AccessMode) :
    (updateVolume name (Volume.setAccessMode mode)).apply stack =
      (.ok (), { stack with
        volumes := stack.volumes.put name { volume with accessMode := mode } }) := by
  have named : volume.name = name := (sound.volumes.get? found).1
  have replaced : stack.volumes.replace { volume with accessMode := mode } =
      .ok (stack.volumes.put name { volume with accessMode := mode }) :=
    Registry.replace_eq_ok.mpr ⟨by rw [← named] at found; exact Registry.contains_of_get? found,
      by rw [← named]; rfl⟩
  unfold updateVolume
  rw [Edit.apply_bind, Edit.apply_get]
  dsimp only
  rw [found]
  dsimp only
  rw [Edit.apply_bind, Edit.apply_lift, Edit.onCopy]
  show ((liftM (stack.volumes.replace { volume with accessMode := mode }) >>= _ :
    Edit Stack Unit).apply stack) = _
  rw [replaced]
  rfl

/-- The lines of a manifest around the items of mounts. -/
def linesAround (order : List Service) (above below : Service → List String) (rest : List String)
    (item : Mount → String) : List String :=
  "services:" :: (order.flatMap (fun service =>
    above service ++ mountLines item service ++ below service) ++ rest)

/-- A line of the first manifest and the one in its place in the second. -/
def SameButItem (name : String) (stack left : Stack) (line newLine : String) : Prop :=
  newLine = line ∨ ∃ path, line = mountItem stack (.named name path none) ∧
    newLine = mountItem left (.named name path none)

/-- Two texts are the same but for the items of mounts that leave the mode to the volume of a name.

They are so line by line; the lines around the items of all mounts are the same; and the items that
may differ end in the mode that the volume has in the second stack. -/
structure SameButItems (name : String) (stack left : Stack) (before after : String) : Prop where
  lineByLine : ∃ lines newLines, HasLines before lines ∧ HasLines after newLines ∧
    List.Forall₂ (SameButItem name stack left) lines newLines
  around : ∃ above below rest,
    HasLines before (linesAround stack.renderOrder above below rest (mountItem stack)) ∧
    HasLines after (linesAround stack.renderOrder above below rest (mountItem left))
  others : ∀ mount, (∀ path, mount ≠ .named name path none) →
    mountItem left mount = mountItem stack mount
  shown : ∀ service ∈ stack.services.toList, ∀ path, .named name path none ∈ service.mounts →
    ∃ volume, left.volumes.get? name = some volume ∧ mountItem left (.named name path none) =
      "      - " ++ Scalar.write (name ++ ":" ++ path ++ ":" ++ volume.accessMode.word)

theorem forall₂_linesAround {relation : String → String → Prop} (refl : ∀ line, relation line line)
    {item newItem : Mount → String} (items : ∀ mount, relation (item mount) (newItem mount))
    (order : List Service) (above below : Service → List String) (rest : List String) :
    List.Forall₂ relation (linesAround order above below rest item)
      (linesAround order above below rest newItem) := by
  have same (lines : List String) : List.Forall₂ relation lines lines :=
    List.forall₂_same.mpr fun line _ => refl line
  have mounts (service : Service) :
      List.Forall₂ relation (mountLines item service) (mountLines newItem service) := by
    unfold mountLines
    split
    · exact .nil
    · refine .cons (refl _) (List.forall₂_map_left_iff.mpr (List.forall₂_map_right_iff.mpr ?_))
      exact List.forall₂_same.mpr fun mount _ => items mount
  refine .cons (refl _) (List.rel_append ?_ (same rest))
  induction order with
  | nil => exact .nil
  | cons service others ih =>
    rw [List.flatMap_cons, List.flatMap_cons]
    refine List.rel_append (List.rel_append (List.rel_append (same _) (mounts service)) ?_) ih
    exact same _

namespace ModeSet

variable {left : Stack} (modeSet : ModeSet name stack left)

include modeSet

/-- **Volumes do not show their access modes** in their own section. -/
theorem sections : sectionSteps left = sectionSteps stack := by
  rcases modeSet with rfl | ⟨volume, mode, found, rfl⟩
  · rfl
  · obtain ⟨first, last, before, after⟩ := Registry.toList_put found
    have volumes : ((stack.volumes.put name { volume with accessMode := mode }).toList.map
        Manifest.volumeSteps) = stack.volumes.toList.map Manifest.volumeSteps := by
      rw [before, after, List.map_append, List.map_append]
      rfl
    rw [sectionSteps, sectionSteps, volumes]

theorem services : left.services = stack.services ∧ left.mainService = stack.mainService ∧
    left.name = stack.name := by
  rcases modeSet with rfl | ⟨_, _, _, rfl⟩ <;> exact ⟨rfl, rfl, rfl⟩

/-- Services are written as before, except for their mounts. -/
theorem lines_eq : lines left =
    "services:" :: (stack.renderOrder.flatMap (serviceLines stack (mountItem left)) ++
      linesOf 0 (sectionSteps stack)) := by
  rw [lines, modeSet.sections]
  rcases modeSet with rfl | ⟨_, _, _, rfl⟩ <;> rfl

/-- **Only mounts that leave the mode to the volume have another item.** -/
theorem item_eq {mount : Mount} (other : ∀ path, mount ≠ .named name path none) :
    mountItem left mount = mountItem stack mount := by
  rcases modeSet with rfl | ⟨volume, mode, _, rfl⟩
  · rfl
  cases mount with
  | anonymous path => rfl
  | bind hostPath path mode => rfl
  | named volumeName path own =>
    cases own with
    | some own => rfl
    | none =>
      have differs : volumeName ≠ name := fun same => other path (by rw [same])
      rw [mountItem, mountItem, Manifest.mountText, Manifest.mountText, Registry.get?_put,
        if_neg differs]

/-- A line of the first manifest and the one in its place are the same, or items of such a mount. -/
theorem item_same (mount : Mount) :
    SameButItem name stack left (mountItem stack mount) (mountItem left mount) := by
  by_cases leaves : ∃ path, mount = .named name path none
  · obtain ⟨path, rfl⟩ := leaves
    exact .inr ⟨path, rfl, rfl⟩
  · exact .inl (modeSet.item_eq fun path same => leaves ⟨path, same⟩)

/-- The volume that a service mounts is there, and its mode is the one that is shown. -/
theorem item_shown (soundLeft : left.Sound) {service : Service}
    (registered : service ∈ stack.services.toList) {path : String}
    (mounted : .named name path none ∈ service.mounts) :
    ∃ volume, left.volumes.get? name = some volume ∧ mountItem left (.named name path none) =
      "      - " ++ Scalar.write (name ++ ":" ++ path ++ ":" ++ volume.accessMode.word) := by
  rw [← modeSet.services.1] at registered
  have there := (soundLeft.resolves registered).volumes name path none mounted
  obtain ⟨volume, found⟩ := Registry.get?_of_contains there
  refine ⟨volume, found, ?_⟩
  rw [mountItem, Manifest.mountText, found]
  rfl

/-- **Setting the access mode of a volume** changes the items of its mounts only. -/
theorem sameButItems (sound : stack.Sound) (soundLeft : left.Sound) {before after : String}
    (rendered : Manifest.text stack = .ok before) (renderedLeft : Manifest.text left = .ok after) :
    SameButItems name stack left before after := by
  have linesBefore := Manifest.hasLines_text sound rendered
  have linesAfter := Manifest.hasLines_text soundLeft renderedLeft
  rw [modeSet.lines_eq] at linesAfter
  let above (service : Service) : List String :=
    ("  " ++ service.name ++ ":") :: linesOf 2 (Manifest.fieldsAbove stack service)
  let below (service : Service) : List String := linesOf 2 (Manifest.fieldsBelow service)
  let rest := linesOf 0 (sectionSteps stack)
  have items := forall₂_linesAround (fun _ => .inl rfl) modeSet.item_same stack.renderOrder
    above below rest
  refine ⟨⟨_, _, linesBefore, linesAfter, items⟩, ⟨above, below, rest, linesBefore, linesAfter⟩,
    fun mount other => modeSet.item_eq other, fun service registered path mounted => ?_⟩
  exact modeSet.item_shown soundLeft registered mounted

end ModeSet

end Stack

/-! ### Both -/

/-- **An edit changes its own part of the manifest only.** In every stack that is reached:

* An edit of a service that is accepted leaves a manifest which is the same but for one block, the
  line of the name of the service with the deeper lines after it.
* An edit of a volume that only sets its access mode, be it refused or not, leaves a manifest which
  is the same line by line, but for the items of mounts that leave the mode to the volume; these
  end in its new mode. If there is no manifest, the fault is the same. -/
theorem edits_are_local {stack : Stack} (reached : stack.Reached) :
    (∀ name change left before after,
      (Stack.Operation.updateService name change).edit.Accepts stack left →
      (Stack.renderManifest.apply stack).1 = .ok before →
      (Stack.renderManifest.apply left).1 = .ok after → Stack.DifferInBlock name before after) ∧
    ∀ name (change : Edit.Change Volume.ModeCalls),
      let left := ((Stack.updateVolume name change.edit).apply stack).2
      (∀ mode volume, change.edit = Volume.setAccessMode mode →
        stack.volumes.get? name = some volume →
        left.volumes.get? name = some { volume with accessMode := mode }) ∧
      (∀ fault, (Stack.renderManifest.apply stack).1 = .error fault →
        (Stack.renderManifest.apply left).1 = .error fault) ∧
      ∀ before, (Stack.renderManifest.apply stack).1 = .ok before →
        ∃ after, (Stack.renderManifest.apply left).1 = .ok after ∧
          Stack.SameButItems name stack left before after := by
  have sound := reached.sound
  rw [Manifest.renderManifest_eq sound]
  refine ⟨fun name change left before after accepted rendered renderedAfter => ?service,
    fun name change => ?volume⟩
  case service =>
    have reachedLeft := reached.operated (.updateService name change)
    rw [accepted] at reachedLeft
    rw [Manifest.renderManifest_eq reachedLeft.sound] at renderedAfter
    obtain ⟨service, _, edited, found, ran, _, rfl⟩ :=
      (Stack.updateService_settles name fun lookup => (change lookup).edit).of_accepted accepted
    have leads := (change stack.lookup).through service
    rw [ran] at leads
    have named : edited.name = name :=
      (Service.leads_name leads).trans (sound.services.get? found).1
    rw [← named] at found ⊢
    exact Stack.differ_inBlock reached reachedLeft found rendered renderedAfter
  case volume =>
    have modeSet := Stack.updateVolume_modeSet sound name change
    have reachedLeft := reached.operated (.updateVolume name (Volume.setsMode change))
    have soundLeft :
        (((Stack.updateVolume name change.edit).apply stack).2).Sound := reachedLeft.sound
    obtain ⟨services, main, named⟩ := modeSet.services
    dsimp only
    rw [Manifest.renderManifest_eq soundLeft]
    refine ⟨fun mode volume only found => ?set, fun fault refused => ?refused,
      fun before rendered => ?rendered⟩
    case set =>
      rw [only, Stack.updateVolume_setAccessMode sound found]
      exact Registry.get?_put.trans (if_pos rfl)
    case refused => exact Manifest.text_error_of_same sound soundLeft services main named refused
    case rendered =>
      cases renderedLeft : Manifest.text ((Stack.updateVolume name change.edit).apply stack).2 with
      | error fault =>
        have refused := Manifest.text_error_of_same soundLeft sound services.symm main.symm
          named.symm renderedLeft
        rw [rendered] at refused
        cases refused
      | ok after => exact ⟨after, rfl, modeSet.sameButItems sound soundLeft rendered renderedLeft⟩

/-- A run that registers two services with one volume, which the second one mounts in a mode of its
own. -/
def Stack.sharedRun {db web : Service} (dbCreated : Service.create "db" = .ok db)
    (webCreated : Service.create "web" = .ok web) : List Stack.Operation :=
  [.createVolume "data" ⟨none, .empty, none, .empty, none, none, false, none⟩,
    .addService _ (Service.assembled_built dbCreated .everything
      [.image "postgres", .mount (.named "data" "/srv" none)]),
    .addService _ (Service.assembled_built webCreated .everything
      [.image "nginx", .mount (.named "data" "/srv" (some .readWrite))])]

/-- The manifest after that run, with some lines of the first service and the item of its mount. -/
def Stack.sharedText (fields : List String) (item : String) : String :=
  String.join ((["services:", "  db:", "    image: postgres"] ++ fields ++ ["    volumes:", item] ++
    ["  web:", "    image: nginx", "    volumes:", "      - data:/srv:rw"] ++
    ["volumes:", "  data:"]).map (· ++ "\n"))

/-- One call that makes a volume read-only. -/
def Volume.protect : Edit.Change Volume.ModeCalls :=
  ⟨setAccessMode .readOnly, .of_move ⟨.readOnly, rfl⟩⟩

theorem edits_are_local_sharedRun :
    ∃ start db web, ∃ (dbCreated : Service.create "db" = .ok db)
      (webCreated : Service.create "web" = .ok web),
      Stack.create "shop" .everything = .ok start ∧
      let left := start.run (Stack.sharedRun dbCreated webCreated)
      let text := Stack.sharedText [] "      - data:/srv:rw"
      (Stack.renderManifest.apply left).1 = .ok text ∧
      Stack.DifferInBlock "db" text
        (Stack.sharedText ["    user: \"999\""] "      - data:/srv:rw") ∧
      let after := ((Stack.updateVolume "data" Volume.protect.edit).apply left).2
      (Stack.renderManifest.apply after).1 =
        .ok (Stack.sharedText [] "      - data:/srv:ro") ∧
      Stack.SameButItems "data" left after text (Stack.sharedText [] "      - data:/srv:ro") := by
  have created : Stack.create "shop" .everything = .ok _ := rfl
  have reached : Stack.Reached _ := ⟨_, _, _, Stack.sharedRun rfl rfl, created, rfl⟩
  obtain ⟨services, volumes⟩ := edits_are_local reached
  refine ⟨_, _, _, rfl, rfl, created, rfl, ?service, rfl, ?volume⟩
  case service =>
    exact services "db" (fun _ => Service.Setting.sequence .everything [.user "999"]) _ _ _
      rfl rfl rfl
  case volume =>
    obtain ⟨_, _, rendered⟩ := volumes "data" Volume.protect
    obtain ⟨_, same, items⟩ := rendered _ rfl
    cases same
    exact items

end ContainerStack
