import ContainerStack.Proofs.Admission
import ContainerStack.Proofs.Growth
import ContainerStack.Proofs.ManifestLines
import ContainerStack.Proofs.TextLines

/-!
**What the line of a mount can be taken for.**

A mount is written as one line, its parts with a colon between them. The name of a volume holds no
colon, but paths may, and the path of a directory on the host may be any text that is not blank. So
the line of such a directory may read as a volume, and a path may read as several parts.

* `Mount.joined`: the parts of a mount with colons between them. `joined_eq`: two ways to take one
  line apart.
* `Mount.Accepted`: some service takes the mount in. `accepted_iff`: what that makes sure of.
* `Mount.effective`: a mount with the access mode that it comes to.
* `Mount.Clear`: neither does the path of the host read as the name of a volume or as two paths, nor
  a path without source as a mount that has one.
* `mount_lines_clear`: the lines of clear mounts tell them apart, and no other lines do.
-/

namespace ContainerStack

open Manifest (mountItem mountLine mountText)

namespace Validation

theorem containerPath_eq_ok {subject path : String} {answer : Unit} :
    containerPath subject path = .ok answer ↔ path.toList.head? = some '/' := by
  refine ⟨head_of_containerPath, fun absolute => ?_⟩
  have full : path ≠ "" := by
    rintro rfl
    cases absolute
  simp [containerPath, ensure, full, absolute, bind, Except.bind]

end Validation

namespace Mount

/-! ### Taking lines apart -/

/-- The path begins with a slash. -/
def Absolute (path : String) : Prop := path.toList.head? = some '/'

instance (path : String) : Decidable (Absolute path) := inferInstanceAs (Decidable (_ = _))

/-- The parts of a mount with colons between them. -/
def joined (source path : String) (mode : AccessMode) : String :=
  source ++ ":" ++ path ++ ":" ++ mode.word

section Parts

variable {source path other inner : String} {mode otherMode : AccessMode}

/-- The mode of a line is what stands behind the last colon. -/
theorem joined_mode (same : joined source path mode = joined other inner otherMode) :
    source ++ ":" ++ path = other ++ ":" ++ inner ∧ mode = otherMode := by
  have ending (mode : AccessMode) : (":" ++ mode.word).toList.length = 3 := by
    cases mode <;> rfl
  have apart (source path : String) (mode : AccessMode) : (joined source path mode).toList =
      (source ++ ":" ++ path).toList ++ (":" ++ mode.word).toList := by
    rw [joined, String.append_assoc, String.toList_append]
  rw [← String.toList_inj, apart, apart] at same
  obtain ⟨parts, modes⟩ := List.append_inj' same ((ending mode).trans (ending otherMode).symm)
  refine ⟨String.toList_inj.mp parts, ?_⟩
  cases mode <;> cases otherMode <;> first | rfl | exact absurd modes (by decide)

/-- **If one line is taken apart in two ways with one source longer than the other**, the longer
source is the other one, a colon and an absolute path. -/
theorem longer_source {extra : List Char} (absolute : Absolute path)
    (longer : other.toList = source.toList ++ extra)
    (rest : ':' :: path.toList = extra ++ ':' :: inner.toList) :
    (source = other ∧ path = inner) ∨
      ∃ between, other = source ++ ":/" ++ between ∧ path = "/" ++ between ++ ":" ++ inner := by
  cases extra with
  | nil =>
    rw [List.append_nil] at longer
    exact .inl ⟨String.toList_inj.mp longer.symm, String.toList_inj.mp (List.cons.inj rest).2⟩
  | cons colon more =>
    obtain ⟨rfl, chars⟩ := List.cons.inj rest
    rw [Absolute, chars] at absolute
    cases more with
    | nil => cases absolute
    | cons slash between =>
      cases absolute
      refine .inr ⟨String.ofList between, ?_, ?_⟩
      · rw [← String.toList_inj, longer]
        simp
      · rw [← String.toList_inj, chars]
        simp

/-- **The ways to take one line apart**: the modes agree, and either all parts do or one source is
the other one, a colon and an absolute path. -/
theorem joined_eq (absolute : Absolute path) (otherAbsolute : Absolute inner)
    (same : joined source path mode = joined other inner otherMode) :
    mode = otherMode ∧ ((source = other ∧ path = inner) ∨
      (∃ between, other = source ++ ":/" ++ between) ∨
      ∃ between, source = other ++ ":/" ++ between) := by
  obtain ⟨parts, modes⟩ := joined_mode same
  refine ⟨modes, ?_⟩
  have chars : source.toList ++ ':' :: path.toList = other.toList ++ ':' :: inner.toList := by
    simpa using congrArg String.toList parts
  -- One of the two sources begins the other one.
  rcases List.append_eq_append_iff.mp chars with ⟨extra, longer, rest⟩ | ⟨extra, longer, rest⟩
  · rcases longer_source absolute longer rest with same | ⟨between, source, _⟩
    · exact .inl same
    · exact .inr (.inl ⟨between, source⟩)
  · rcases longer_source otherAbsolute longer rest with same | ⟨between, source, _⟩
    · exact .inl ⟨same.1.symm, same.2.symm⟩
    · exact .inr (.inr ⟨between, source⟩)

/-- The name of a volume holds no colon. -/
theorem name_ne {name : String} (named : isEntityName name = true) (before between : String) :
    name ≠ before ++ ":/" ++ between := by
  rintro rfl
  have free : ':' ∉ (before ++ ":/" ++ between).toList := Text.notMem_of_shape named rfl rfl
  exact free (by simp)

end Parts

/-! ### Mounts that are accepted -/

/-- The source of a mount is known to the stack: the volume is registered, and the path on the host
is not blank. -/
def SourceKnown (stack : Stack) : Mount → Prop
  | .anonymous _ => True
  | .named name _ _ => stack.volumes.contains name = true
  | .bind hostPath _ _ => Text.isBlankText hostPath = false

/-- Some service takes the mount in, under the lookup of the stack. -/
def Accepted (stack : Stack) (mount : Mount) : Prop :=
  ∃ service after : Service, service.Built ∧
    (Service.addMount mount stack.lookup).Accepts service after

/-- **What a mount has to be to be accepted**: its path is absolute and its source known. -/
theorem accepted_iff {stack : Stack} {mount : Mount} :
    mount.Accepted stack ↔ Absolute mount.containerPath ∧ mount.SourceKnown stack := by
  have source (service : Service) :
      service.checkMountSource mount stack.lookup = .ok () ↔ mount.SourceKnown stack := by
    cases mount with
    | anonymous path => exact ⟨fun _ => trivial, fun _ => rfl⟩
    | named name path mode => exact Validation.ensure_eq_ok
    | bind hostPath path mode =>
      rw [Service.checkMountSource, Validation.present, Validation.ensure_eq_ok,
        Bool.not_eq_true']
      rfl
  have guarded (service after : Service) :=
    Service.setting_guarded stack.lookup (.mount mount) service after
  constructor
  · rintro ⟨service, after, _, accepted⟩
    obtain ⟨⟨path, known, _⟩, _⟩ := (guarded service after).mp accepted
    exact ⟨Validation.head_of_containerPath path, (source service).mp known⟩
  · rintro ⟨absolute, known⟩
    have created : Service.create "web" = .ok _ := rfl
    refine ⟨_, _, ⟨"web", _, created, .refl _⟩, (guarded _ _).mpr ⟨⟨?_, ?_, rfl⟩, rfl⟩⟩
    · exact Validation.containerPath_eq_ok.mpr absolute
    · exact (source _).mpr known

/-! ### What lines say -/

/-- A mount with the access mode that it comes to: its own one, or else that of its volume. -/
def effective (stack : Stack) : Mount → Mount
  | .named name path mode =>
    .named name path (mode.or ((stack.volumes.get? name).map Volume.accessMode))
  | mount => mount

/-- **Neither does a path of the host read as the name of a volume or as two paths**, nor does a
path without a source read as a mount that has one. -/
def Clear : Mount → Prop
  | .anonymous path => ∀ source inner mode, Absolute inner → path ≠ joined source inner mode
  | .named _ _ _ => True
  | .bind hostPath _ _ => isEntityName hostPath = false ∧
    ∀ source between, Text.isBlankText source = false → hostPath ≠ source ++ ":/" ++ between

section Lines

variable {stack : Stack}

/-- **Mounts have one item if they have one line**, whether it is quoted or not. -/
theorem item_inj {other : Stack} {mount another : Mount} :
    mountItem stack mount = mountItem other another ↔
      mountText stack mount = mountText other another := by
  rw [mountItem, mountItem, String.append_right_inj, Yaml.Reading.write_inj]

/-- The line of an accepted mount of a volume has the mode that the mount comes to. -/
theorem line_named {name : String} (known : stack.volumes.contains name = true) (path : String)
    (mode : Option AccessMode) : ∃ comesTo,
      effective stack (.named name path mode) = .named name path (some comesTo) ∧
      mountText stack (.named name path mode) = joined name path comesTo := by
  obtain ⟨volume, found⟩ := Registry.get?_of_contains known
  cases mode with
  | some mode => exact ⟨mode, rfl, rfl⟩
  | none =>
    refine ⟨volume.accessMode, ?_, ?_⟩
    · rw [effective, found]
      rfl
    · rw [mountText, found]
      rfl

/-- **Every accepted mount has its line.** -/
theorem line_written {mount : Mount} (accepted : mount.Accepted stack) (service : Service) :
    mountLine stack service mount = .ok (mountText stack mount) := by
  cases mount with
  | anonymous path => rfl
  | bind hostPath path mode => rfl
  | named name path mode =>
    cases mode with
    | some mode => rfl
    | none =>
      obtain ⟨volume, found⟩ := Registry.get?_of_contains (accepted_iff.mp accepted).2
      rw [mountLine, mountText, found]
      rfl

theorem isEntityName_of_known (sound : stack.Sound) {name : String}
    (known : stack.volumes.contains name = true) : isEntityName name = true := by
  obtain ⟨volume, found⟩ := Registry.get?_of_contains known
  obtain ⟨rfl, built⟩ := sound.volumes.get? found
  exact built.named

/-- A name is not blank. -/
theorem notBlank_of_name {name : String} (named : isEntityName name = true) :
    Text.isBlankText name = false := by
  unfold isEntityName hasShape at named
  split at named
  · cases named
  · rename_i first rest chars
    rw [Bool.and_eq_true] at named
    refine List.all_eq_false.mpr ⟨first, chars ▸ List.mem_cons_self, ?_⟩
    rw [isBlank_of_letterOrDigit named.1]
    exact Bool.false_ne_true

/-- A line that begins with a slash has a source that is not blank. -/
theorem notBlank_of_absolute {source inner : String} {mode : AccessMode}
    (absolute : Absolute (joined source inner mode)) : Text.isBlankText source = false := by
  have chars : (joined source inner mode).toList =
      source.toList ++ ':' :: (inner ++ ":" ++ mode.word).toList := by simp [joined]
  rw [Absolute, chars] at absolute
  cases start : source.toList with
  | nil =>
    rw [start] at absolute
    cases absolute
  | cons first rest =>
    rw [start] at absolute
    cases absolute
    exact List.all_eq_false.mpr ⟨'/', start ▸ List.mem_cons_self, by decide⟩

/-- **The line of a clear directory reads as no volume.** -/
theorem clear_bind_ne {hostPath path name inner : String} {mode otherMode : AccessMode}
    (clear : (bind hostPath path mode).Clear) (absolute : Absolute path)
    (named : isEntityName name = true) (otherAbsolute : Absolute inner) :
    joined hostPath path mode ≠ joined name inner otherMode := by
  intro same
  obtain ⟨_, ⟨rfl, _⟩ | ⟨between, cut⟩ | ⟨between, cut⟩⟩ := joined_eq absolute otherAbsolute same
  · rw [clear.1] at named
    cases named
  · exact name_ne named _ _ cut
  · exact clear.2 name between (notBlank_of_name named) cut

/-- **Clear directories with one line are one directory** at one path. -/
theorem clear_binds_eq {hostPath path other inner : String} {mode otherMode : AccessMode}
    (clear : (bind hostPath path mode).Clear) (alsoClear : (bind other inner otherMode).Clear)
    (host : Text.isBlankText hostPath = false) (otherHost : Text.isBlankText other = false)
    (absolute : Absolute path) (otherAbsolute : Absolute inner)
    (same : joined hostPath path mode = joined other inner otherMode) :
    bind hostPath path mode = bind other inner otherMode := by
  obtain ⟨rfl, ⟨rfl, rfl⟩ | ⟨between, cut⟩ | ⟨between, cut⟩⟩ :=
    joined_eq absolute otherAbsolute same
  · rfl
  · exact absurd cut (alsoClear.2 hostPath between host)
  · exact absurd cut (clear.2 other between otherHost)

/-- **Clear mounts with one line are one mount**, with the mode that it comes to. -/
theorem effective_eq {other : Stack} (sound : stack.Sound) (otherSound : other.Sound)
    {mount another : Mount} (accepted : mount.Accepted stack)
    (alsoAccepted : another.Accepted other) (clear : mount.Clear) (alsoClear : another.Clear)
    (same : mountText stack mount = mountText other another) :
    mount.effective stack = another.effective other := by
  obtain ⟨absolute, known⟩ := accepted_iff.mp accepted
  obtain ⟨otherAbsolute, otherKnown⟩ := accepted_iff.mp alsoAccepted
  cases mount with
  | anonymous path =>
    cases another with
    | anonymous inner => exact congrArg anonymous same
    | named name inner mode =>
      obtain ⟨comesTo, _, line⟩ := line_named otherKnown inner mode
      exact absurd (same.trans line) (clear name inner comesTo otherAbsolute)
    | bind hostPath inner mode => exact absurd same (clear hostPath inner mode otherAbsolute)
  | named name path mode =>
    obtain ⟨comesTo, comes, line⟩ := line_named known path mode
    have named := isEntityName_of_known sound known
    rw [line] at same
    cases another with
    | anonymous inner => exact absurd same.symm (alsoClear name path comesTo absolute)
    | named otherName inner otherMode =>
      obtain ⟨otherComesTo, otherComes, otherLine⟩ := line_named otherKnown inner otherMode
      have otherNamed := isEntityName_of_known otherSound otherKnown
      rw [otherLine] at same
      obtain ⟨rfl, ⟨rfl, rfl⟩ | ⟨between, cut⟩ | ⟨between, cut⟩⟩ :=
        joined_eq absolute otherAbsolute same
      · exact comes.trans otherComes.symm
      · exact absurd cut (name_ne otherNamed _ _)
      · exact absurd cut (name_ne named _ _)
    | bind hostPath inner otherMode =>
      exact absurd same.symm (clear_bind_ne alsoClear otherAbsolute named absolute)
  | bind hostPath path mode =>
    cases another with
    | anonymous inner => exact absurd same.symm (alsoClear hostPath path mode absolute)
    | named name inner otherMode =>
      obtain ⟨comesTo, _, line⟩ := line_named otherKnown inner otherMode
      have named := isEntityName_of_known otherSound otherKnown
      exact absurd (same.trans line) (clear_bind_ne clear absolute named otherAbsolute)
    | bind otherHost inner otherMode =>
      exact clear_binds_eq clear alsoClear known otherKnown absolute otherAbsolute same

/-- **The line of a clear mount reads as a volume only if the volume is registered.** -/
theorem registered_of_line (sound : stack.Sound) {mount : Mount} (accepted : mount.Accepted stack)
    (clear : mount.Clear) {name path : String} {mode : AccessMode}
    (named : isEntityName name = true) (absolute : Absolute path)
    (same : mountText stack mount = joined name path mode) :
    stack.volumes.contains name = true := by
  obtain ⟨ownAbsolute, known⟩ := accepted_iff.mp accepted
  cases mount with
  | anonymous inner => exact absurd same (clear name path mode absolute)
  | bind hostPath inner ownMode =>
    exact absurd same (clear_bind_ne clear ownAbsolute named absolute)
  | named ownName inner ownMode =>
    obtain ⟨comesTo, _, line⟩ := line_named known inner ownMode
    have ownNamed := isEntityName_of_known sound known
    obtain ⟨_, ⟨rfl, _⟩ | ⟨between, cut⟩ | ⟨between, cut⟩⟩ :=
      joined_eq ownAbsolute absolute (line.symm.trans same)
    · exact known
    · exact absurd cut (name_ne named _ _)
    · exact absurd cut (name_ne ownNamed _ _)

/-- **What is not clear is taken for something else**: its item is that of another mount that the
stack accepts, or its line reads as a volume that is not registered. -/
theorem unclear_misread {mount : Mount} (accepted : mount.Accepted stack)
    (unclear : ¬mount.Clear) :
    (∃ another : Mount, another.Accepted stack ∧ mountItem stack another = mountItem stack mount ∧
      another.effective stack ≠ mount.effective stack) ∨
    ∃ name path mode, isEntityName name = true ∧ Absolute path ∧
      mountText stack mount = joined name path mode ∧ stack.volumes.contains name = false := by
  obtain ⟨absolute, known⟩ := accepted_iff.mp accepted
  cases mount with
  | named name path mode => exact absurd trivial unclear
  | anonymous path =>
    simp only [Clear, not_forall, not_not] at unclear
    obtain ⟨source, inner, mode, innerAbsolute, rfl⟩ := unclear
    exact .inl ⟨bind source inner mode,
      accepted_iff.mpr ⟨innerAbsolute, notBlank_of_absolute absolute⟩, rfl, nofun⟩
  | bind hostPath path mode =>
    by_cases named : isEntityName hostPath = true
    · cases registered : stack.volumes.contains hostPath with
      | true =>
        exact .inl ⟨.named hostPath path (some mode), accepted_iff.mpr ⟨absolute, registered⟩, rfl,
          nofun⟩
      | false => exact .inr ⟨hostPath, path, mode, named, absolute, rfl, registered⟩
    · have cut : ∃ source between, Text.isBlankText source = false ∧
          hostPath = source ++ ":/" ++ between := by
        simpa [Clear, named] using unclear
      obtain ⟨source, between, notBlank, rfl⟩ := cut
      -- The second path of the host can as well stand in front of the path of the container.
      refine .inl ⟨bind source ("/" ++ between ++ ":" ++ path) mode,
        accepted_iff.mpr ⟨by simp [Absolute, containerPath], notBlank⟩, ?line, ?differs⟩
      case line =>
        rw [item_inj, ← String.toList_inj]
        simp [mountText]
      case differs =>
        intro same
        have sources : source = source ++ ":/" ++ between := (Mount.bind.inj same).1
        have lengths := congrArg (fun text => text.toList.length) sources
        simp only [String.toList_append, List.length_append] at lengths
        have two : ":/".toList.length = 2 := rfl
        omega

end Lines

/-- A path without a colon that is no name is clear. -/
theorem clear_bind {hostPath : String} (notNamed : isEntityName hostPath = false)
    (free : ':' ∉ hostPath.toList) (path : String) (mode : AccessMode) :
    (bind hostPath path mode).Clear := by
  refine ⟨notNamed, fun source between _ => ?_⟩
  rintro rfl
  exact free (by simp)

end Mount

open Mount (joined Absolute)

/-- **The lines of clear mounts tell them apart, and no other lines do.** Every mount that a stack
accepts has its line. Two clear mounts with one item in the manifest are one mount, with the mode
that it comes to, and the line of a clear mount reads as that of a volume only if the volume is
registered. The item of any other mount is also that of another one that the stack accepts, or its
line reads as that of a volume that is not there. -/
theorem mount_lines_clear {stack other : Stack} (reached : stack.Reached)
    (otherReached : other.Reached) {mount another : Mount} (accepted : mount.Accepted stack)
    (alsoAccepted : another.Accepted other) :
    (∀ service, mountLine stack service mount = .ok (mountText stack mount)) ∧
    (mount.Clear → another.Clear → mountItem stack mount = mountItem other another →
      mount.effective stack = another.effective other) ∧
    (mount.Clear → ∀ name path mode, isEntityName name = true → Absolute path →
      mountText stack mount = joined name path mode → stack.volumes.contains name = true) ∧
    (¬mount.Clear →
      (∃ lookalike : Mount, lookalike.Accepted stack ∧
        mountItem stack lookalike = mountItem stack mount ∧
        lookalike.effective stack ≠ mount.effective stack) ∨
      ∃ name path mode, isEntityName name = true ∧ Absolute path ∧
        mountText stack mount = joined name path mode ∧
        stack.volumes.contains name = false) := by
  refine ⟨Mount.line_written accepted, ?same, ?registered, Mount.unclear_misread accepted⟩
  case same =>
    intro clear alsoClear same
    exact Mount.effective_eq reached.sound otherReached.sound accepted alsoAccepted clear alsoClear
      (Mount.item_inj.mp same)
  case registered =>
    intro clear name path mode named absolute same
    exact Mount.registered_of_line reached.sound accepted clear named absolute same

/-- A run that makes a volume. -/
def Stack.stockingRun : List Stack.Operation := [.createVolume "data" .bare]

theorem mount_lines_clear_stockingRun :
    ∃ start, Stack.create "shop" .everything = .ok start ∧
      let stack := start.run Stack.stockingRun
      let mount := Mount.named "data" "/srv" none
      let another := Mount.bind "./data" "/srv" .readWrite
      stack.Reached ∧ mount.Accepted stack ∧ another.Accepted stack ∧ mount.Clear ∧
      another.Clear ∧ mountText stack mount = "data:/srv:rw" ∧
      mountText stack another = "./data:/srv:rw" ∧
      (∀ service, mountLine stack service mount = .ok (mountText stack mount)) ∧
      (mount.Clear → another.Clear → mountItem stack mount = mountItem stack another →
        mount.effective stack = another.effective stack) ∧
      (mount.Clear → ∀ name path mode, isEntityName name = true → Absolute path →
        mountText stack mount = joined name path mode → stack.volumes.contains name = true) ∧
      (¬mount.Clear →
        (∃ lookalike : Mount, lookalike.Accepted stack ∧
          mountItem stack lookalike = mountItem stack mount ∧
          lookalike.effective stack ≠ mount.effective stack) ∨
        ∃ name path mode, isEntityName name = true ∧ Absolute path ∧
          mountText stack mount = joined name path mode ∧
          stack.volumes.contains name = false) := by
  have created : Stack.create "shop" .everything = .ok _ := rfl
  refine ⟨_, created, ?_⟩
  intro stack mount another
  have reached : stack.Reached := ⟨"shop", .everything, _, Stack.stockingRun, created, rfl⟩
  have accepted : mount.Accepted stack :=
    Mount.accepted_iff.mpr ⟨by decide, (rfl : stack.volumes.contains "data" = true)⟩
  have alsoAccepted : another.Accepted stack :=
    Mount.accepted_iff.mpr ⟨by decide, (by decide : Text.isBlankText "./data" = false)⟩
  exact ⟨reached, accepted, alsoAccepted, trivial, Mount.clear_bind (by decide) (by decide) _ _,
    rfl, rfl, mount_lines_clear reached reached accepted alsoAccepted⟩

/-- **A directory of the host is taken for a volume** if its path is the name of one. -/
theorem bind_taken_for_volume :
    ∃ start, Stack.create "shop" .everything = .ok start ∧
      let stack := start.run Stack.stockingRun
      let directory := Mount.bind "data" "/srv" .readWrite
      let volume := Mount.named "data" "/srv" none
      stack.Reached ∧ directory.Accepted stack ∧ volume.Accepted stack ∧
      mountItem stack directory = "      - data:/srv:rw" ∧
      mountItem stack volume = "      - data:/srv:rw" ∧
      directory.effective stack ≠ volume.effective stack := by
  have created : Stack.create "shop" .everything = .ok _ := rfl
  refine ⟨_, created, ?_⟩
  intro stack directory volume
  have reached : stack.Reached := ⟨"shop", .everything, _, Stack.stockingRun, created, rfl⟩
  have accepted : directory.Accepted stack :=
    Mount.accepted_iff.mpr ⟨by decide, (by decide : Text.isBlankText "data" = false)⟩
  have alsoAccepted : volume.Accepted stack :=
    Mount.accepted_iff.mpr ⟨by decide, (rfl : stack.volumes.contains "data" = true)⟩
  exact ⟨reached, accepted, alsoAccepted, by decide +kernel, by decide +kernel, nofun⟩

end ContainerStack
