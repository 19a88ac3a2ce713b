import ContainerStack.Proofs.Changes

/-!
**Durations and byte sizes, as they are written.**

A number is digits, and possibly a point and further digits. A duration is one number with a unit of
time after another, without anything between them; a byte size is one number with a unit or none.

Minutes begin like milliseconds, and after both another number may come. So the reader of durations
cannot cut a text into parts in advance; where it stands tells what it has read.

* `Digits`, `DecimalNumber`, `DurationPart`, `ByteSize`: what may be written, and its characters.
* `DurationState.accepts_parts`: parts lead to a state where the text may end.
* `DurationState.Follows`: what may stand before a state. `Follows.next?`: so it is after one more
  character; `Follows.accepted`: so what is taken is parts.
* `isDuration_iff`, `isByteSize_iff`: what is recognised.
* `durations_and_sizes_exact`: the two checks.
-/

namespace ContainerStack

/-! ### What is written -/

/-- Decimal digits, one at least. -/
structure Digits where
  chars : List Char
  nonempty : chars ≠ []
  decimal : ∀ char ∈ chars, Numeral.isDigit char = true
  deriving DecidableEq, Repr

namespace Digits

/-- One digit. -/
def single (char : Char) (isDigit : Numeral.isDigit char = true) : Digits where
  chars := [char]
  nonempty := List.cons_ne_nil char []
  decimal := List.forall_mem_singleton.mpr isDigit

/-- One more digit at the end. -/
def push (digits : Digits) (char : Char) (isDigit : Numeral.isDigit char = true) : Digits where
  chars := digits.chars ++ [char]
  nonempty := List.append_ne_nil_of_left_ne_nil digits.nonempty [char]
  decimal := List.forall_mem_append.mpr ⟨digits.decimal, List.forall_mem_singleton.mpr isDigit⟩

end Digits

/-- A number: digits, and possibly a point and digits behind it. -/
structure DecimalNumber where
  whole : Digits
  fraction : Option Digits
  deriving DecidableEq, Repr

/-- The characters of a number. -/
def DecimalNumber.chars (number : DecimalNumber) : List Char :=
  number.whole.chars ++ (number.fraction.map fun digits => '.' :: digits.chars).getD []

/-- The units of time. -/
inductive TimeUnit where
  | nanosecond
  | microsecond
  | millisecond
  | second
  | minute
  | hour
  deriving DecidableEq, Repr

/-- The characters of a unit of time. -/
def TimeUnit.chars : TimeUnit → List Char
  | nanosecond => ['n', 's']
  | microsecond => ['u', 's']
  | millisecond => ['m', 's']
  | second => ['s']
  | minute => ['m']
  | hour => ['h']

/-- A part of a duration: a number and a unit of time. -/
structure DurationPart where
  number : DecimalNumber
  unit : TimeUnit
  deriving DecidableEq, Repr

/-- The characters of a part. -/
def DurationPart.chars (part : DurationPart) : List Char := part.number.chars ++ part.unit.chars

/-- The letters that a unit of byte sizes may begin with. -/
def byteLetters : List Char := ['b', 'B', 'k', 'K', 'm', 'M', 'g', 'G', 't', 'T']

/-- The unit of a byte size: a letter, which may be a `b` itself, and possibly a `b` in either case
behind it. -/
structure ByteUnit where
  letter : Char
  mark : Option Char
  isLetter : letter ∈ byteLetters
  isMark : ∀ char ∈ mark, char = 'b' ∨ char = 'B'
  deriving DecidableEq, Repr

/-- The characters of a unit of byte sizes. -/
def ByteUnit.chars (unit : ByteUnit) : List Char := unit.letter :: unit.mark.toList

/-- A byte size: a number with a unit or none. -/
structure ByteSize where
  number : DecimalNumber
  unit : Option ByteUnit
  deriving DecidableEq, Repr

/-- The characters of a byte size. -/
def ByteSize.chars (size : ByteSize) : List Char :=
  size.number.chars ++ (size.unit.map ByteUnit.chars).getD []

/-! ### Which characters occur -/

theorem isLetterOrDigit_of_isDigit {char : Char} (digit : Numeral.isDigit char = true) :
    isLetterOrDigit char = true := by
  rw [isLetterOrDigit, digit, Bool.or_true]

/-- A number consists of digits and a point. -/
theorem DecimalNumber.mem_chars {number : DecimalNumber} {char : Char}
    (member : char ∈ number.chars) : isLetterOrDigit char = true ∨ char = '.' := by
  rw [chars, List.mem_append] at member
  rcases member with whole | fraction
  · exact .inl (isLetterOrDigit_of_isDigit (number.whole.decimal char whole))
  · cases behind : number.fraction with
    | none => simp [behind] at fraction
    | some digits =>
      rw [behind] at fraction
      rcases List.mem_cons.mp fraction with point | digit
      · exact .inr point
      · exact .inl (isLetterOrDigit_of_isDigit (digits.decimal char digit))

theorem TimeUnit.isLetterOrDigit_of_mem (unit : TimeUnit) :
    ∀ char ∈ unit.chars, isLetterOrDigit char = true := by
  cases unit <;> exact List.all_eq_true.mp rfl

/-- **Parts of a duration** consist of letters, digits and points. -/
theorem DurationPart.mem_chars {parts : List DurationPart} {char : Char}
    (member : char ∈ parts.flatMap chars) : isLetterOrDigit char = true ∨ char = '.' := by
  obtain ⟨part, _, inside⟩ := List.mem_flatMap.mp member
  rcases List.mem_append.mp inside with number | unit
  · exact DecimalNumber.mem_chars number
  · exact .inl (part.unit.isLetterOrDigit_of_mem char unit)

/-! ### Reading a duration -/

/-- The state after a unit of time. -/
def TimeUnit.finish : TimeUnit → DurationState
  | minute => .minute
  | _ => .unitEnd

namespace DurationState

/-! What is written is taken, whatever comes behind it. -/

theorem accepts_cons {state next : DurationState} {char : Char}
    (moves : state.next? char = some next) (rest : List Char) :
    state.accepts (char :: rest) = next.accepts rest := by
  rw [accepts, moves]

theorem accepts_loop {state : DurationState}
    (loops : ∀ char, Numeral.isDigit char = true → state.next? char = some state)
    {chars : List Char} (decimal : ∀ char ∈ chars, Numeral.isDigit char = true) (rest : List Char) :
    state.accepts (chars ++ rest) = state.accepts rest := by
  induction chars with
  | nil => rfl
  | cons char others ih =>
    obtain ⟨digit, later⟩ := List.forall_mem_cons.mp decimal
    rw [List.cons_append, accepts_cons (loops char digit), ih later]

/-- Digits lead from the state before them to the one inside them. -/
theorem accepts_digits {state inside : DurationState}
    (enters : ∀ char, Numeral.isDigit char = true → state.next? char = some inside)
    (loops : ∀ char, Numeral.isDigit char = true → inside.next? char = some inside)
    (digits : Digits) (rest : List Char) :
    state.accepts (digits.chars ++ rest) = inside.accepts rest := by
  obtain ⟨chars, nonempty, decimal⟩ := digits
  cases chars with
  | nil => exact absurd rfl nonempty
  | cons char others =>
    obtain ⟨digit, later⟩ := List.forall_mem_cons.mp decimal
    rw [List.cons_append, accepts_cons (enters char digit), accepts_loop loops later]

/-- A digit is taken for one of a whole number: a part may begin here, or has just begun. -/
def TakesWhole (state : DurationState) : Prop :=
  ∀ char, Numeral.isDigit char = true → state.next? char = some whole

theorem takesWhole_partStart : partStart.TakesWhole := fun _ digit => if_pos digit

theorem takesWhole_finish (unit : TimeUnit) : unit.finish.TakesWhole := by
  intro char digit
  cases unit <;> exact if_pos digit

theorem isFinal_finish (unit : TimeUnit) : unit.finish.isFinal = true := by
  cases unit <;> rfl

theorem takesWhole_whole : whole.TakesWhole := fun _ digit => if_pos digit

theorem point_enters (char : Char) (digit : Numeral.isDigit char = true) :
    point.next? char = some fraction := if_pos digit

theorem fraction_loops (char : Char) (digit : Numeral.isDigit char = true) :
    fraction.next? char = some fraction := if_pos digit

/-- The state after a number. -/
def afterDecimal (number : DecimalNumber) : DurationState :=
  if number.fraction.isSome then fraction else whole

theorem accepts_number {state : DurationState} (begins : state.TakesWhole) (number : DecimalNumber)
    (rest : List Char) :
    state.accepts (number.chars ++ rest) = (afterDecimal number).accepts rest := by
  obtain ⟨digits, behind⟩ := number
  rw [DecimalNumber.chars, List.append_assoc, accepts_digits begins takesWhole_whole]
  cases behind with
  | none => rfl
  | some others =>
    have point : whole.next? '.' = some point := rfl
    exact (accepts_cons point _).trans
      (accepts_digits point_enters fraction_loops others rest)

theorem accepts_unit (number : DecimalNumber) (unit : TimeUnit) (rest : List Char) :
    (afterDecimal number).accepts (unit.chars ++ rest) = unit.finish.accepts rest := by
  unfold afterDecimal
  split <;> cases unit <;> rfl

theorem accepts_part {state : DurationState} (begins : state.TakesWhole) (part : DurationPart)
    (rest : List Char) : state.accepts (part.chars ++ rest) = part.unit.finish.accepts rest := by
  rw [DurationPart.chars, List.append_assoc, accepts_number begins, accepts_unit]

/-- **Parts lead to a state** where the next part may begin, and the text may end if it might have
ended before or there is a part. -/
theorem accepts_parts {state : DurationState} (begins : state.TakesWhole)
    (parts : List DurationPart) : ∃ next : DurationState, next.TakesWhole ∧
      (state.isFinal = true ∨ parts ≠ [] → next.isFinal = true) ∧
      ∀ rest, state.accepts (parts.flatMap DurationPart.chars ++ rest) = next.accepts rest := by
  induction parts generalizing state with
  | nil => exact ⟨state, begins, fun may => may.resolve_right (absurd rfl), fun _ => rfl⟩
  | cons part others ih =>
    obtain ⟨next, takes, final, read⟩ := ih (takesWhole_finish part.unit)
    refine ⟨next, takes, fun _ => final (.inl (isFinal_finish part.unit)), fun rest => ?_⟩
    rw [List.flatMap_cons, List.append_assoc, accepts_part begins, read]

theorem accepts_of_parts {parts : List DurationPart} (nonempty : parts ≠ []) :
    partStart.accepts (parts.flatMap DurationPart.chars) = true := by
  obtain ⟨next, _, final, read⟩ := accepts_parts takesWhole_partStart parts
  have ended := read []
  rw [List.append_nil] at ended
  exact ended.trans (final (.inr nonempty))

/-- A number without a unit at the end is not taken. -/
theorem not_accepts_number (parts : List DurationPart) (number : DecimalNumber) :
    partStart.accepts (parts.flatMap DurationPart.chars ++ number.chars) = false := by
  obtain ⟨next, takes, _, read⟩ := accepts_parts takesWhole_partStart parts
  have ended := accepts_number takes number []
  rw [List.append_nil] at ended
  rw [read, ended, afterDecimal]
  split <;> rfl

/-! What is taken is written as parts. The induction is on what is still to be read, and carries
what stands before it. -/

/-- What may stand before a state. -/
inductive Follows : DurationState → List Char → Prop
  | partStart : Follows partStart []
  | whole (parts : List DurationPart) (digits : Digits) :
      Follows whole (parts.flatMap DurationPart.chars ++ digits.chars)
  | point (parts : List DurationPart) (digits : Digits) :
      Follows point (parts.flatMap DurationPart.chars ++ (digits.chars ++ ['.']))
  | fraction (parts : List DurationPart) (digits behind : Digits) :
      Follows fraction (parts.flatMap DurationPart.chars ++ (digits.chars ++ '.' :: behind.chars))
  | halfUnit (parts : List DurationPart) (number : DecimalNumber) (unit : TimeUnit) (char : Char)
      (half : unit.chars = [char, 's']) (finish : unit.finish = unitEnd) :
      Follows halfUnit (parts.flatMap DurationPart.chars ++ (number.chars ++ [char]))
  | unit (parts : List DurationPart) (part : DurationPart) :
      Follows part.unit.finish ((parts ++ [part]).flatMap DurationPart.chars)

namespace Follows

variable {state next : DurationState} {char : Char} {before : List Char}

theorem of_part (parts : List DurationPart) (number : DecimalNumber) (unit : TimeUnit) :
    Follows unit.finish
      (parts.flatMap DurationPart.chars ++ (number.chars ++ unit.chars)) := by
  have joined := Follows.unit parts ⟨number, unit⟩
  rwa [List.flatMap_append, List.flatMap_singleton] at joined

/-- The first letter behind a number ends its part or is half of a unit. -/
theorem afterNumber? (parts : List DurationPart) (number : DecimalNumber)
    (moves : DurationState.afterNumber? char = some next) :
    Follows next (parts.flatMap DurationPart.chars ++ (number.chars ++ [char])) := by
  unfold DurationState.afterNumber? at moves
  split at moves
  · rename_i half
    cases moves
    rcases half with rfl | rfl
    · exact .halfUnit parts number .nanosecond 'n' rfl rfl
    · exact .halfUnit parts number .microsecond 'u' rfl rfl
  split at moves
  · rename_i minute
    cases moves
    rw [minute]
    exact of_part parts number .minute
  split at moves
  · rename_i whole
    cases moves
    rcases whole with rfl | rfl
    · exact of_part parts number .second
    · exact of_part parts number .hour
  · cases moves

/-- **One more character** leads from what may stand before a state to what may stand before the
next one. -/
theorem next? (follows : Follows state before) (moves : state.next? char = some next) :
    Follows next (before ++ [char]) := by
  cases follows with
  | partStart =>
    obtain ⟨digit, ⟨⟩⟩ := Option.ite_none_right_eq_some.mp moves
    exact .whole [] (.single char digit)
  | whole parts digits =>
    rw [List.append_assoc]
    unfold DurationState.next? at moves
    dsimp only at moves
    split at moves
    · rename_i digit
      cases moves
      exact .whole parts (digits.push char digit)
    split at moves
    · rename_i point
      cases moves
      rw [point]
      exact .point parts digits
    · have number : digits.chars = (DecimalNumber.mk digits none).chars := (List.append_nil _).symm
      rw [number]
      exact afterNumber? parts _ moves
  | point parts digits =>
    obtain ⟨digit, ⟨⟩⟩ := Option.ite_none_right_eq_some.mp moves
    rw [List.append_assoc, List.append_assoc]
    exact .fraction parts digits (.single char digit)
  | fraction parts digits behind =>
    rw [List.append_assoc]
    unfold DurationState.next? at moves
    dsimp only at moves
    split at moves
    · rename_i digit
      cases moves
      rw [List.append_assoc, List.cons_append]
      exact .fraction parts digits (behind.push char digit)
    · exact afterNumber? parts ⟨digits, some behind⟩ moves
  | halfUnit parts number unit letter half finish =>
    obtain ⟨rfl, ⟨⟩⟩ := Option.ite_none_right_eq_some.mp moves
    have written := of_part parts number unit
    rw [half, finish] at written
    rw [List.append_assoc, List.append_assoc]
    exact written
  | unit parts part =>
    by_cases digit : Numeral.isDigit char = true
    · rw [takesWhole_finish part.unit char digit] at moves
      cases moves
      exact .whole (parts ++ [part]) (.single char digit)
    -- Without a digit only minutes go on, and become milliseconds.
    obtain ⟨number, unit⟩ := part
    cases unit with
    | minute =>
      obtain ⟨rfl, ⟨⟩⟩ := Option.ite_none_right_eq_some.mp ((if_neg digit).symm.trans moves)
      have written := of_part parts number .millisecond
      rw [List.flatMap_append, List.flatMap_singleton, List.append_assoc, DurationPart.chars,
        List.append_assoc]
      exact written
    | _ => exact absurd ((if_neg digit).symm.trans moves) nofun

/-- Where a duration may end, one or more parts were read. -/
theorem exists_parts (follows : Follows state before) (final : state.isFinal = true) :
    ∃ parts : List DurationPart, parts ≠ [] ∧ before = parts.flatMap DurationPart.chars := by
  cases follows with
  | unit parts part => exact ⟨parts ++ [part], List.concat_ne_nil part parts, rfl⟩
  | _ => cases final

/-- **What is taken after what stands before a state** completes it to one or more parts. -/
theorem accepted (follows : Follows state before) {rest : List Char}
    (taken : state.accepts rest = true) :
    ∃ parts : List DurationPart, parts ≠ [] ∧
      before ++ rest = parts.flatMap DurationPart.chars := by
  induction rest generalizing state before with
  | nil =>
    rw [List.append_nil]
    exact follows.exists_parts taken
  | cons char later ih =>
    unfold accepts at taken
    split at taken
    · rename_i next moves
      have completed := ih (follows.next? moves) taken
      rwa [List.append_assoc] at completed
    · cases taken

end Follows

end DurationState

/-- **Durations are one or more parts.** -/
theorem isDuration_iff {value : String} : isDuration value = true ↔
    ∃ parts : List DurationPart, parts ≠ [] ∧ value.toList = parts.flatMap DurationPart.chars := by
  constructor
  · exact DurationState.Follows.accepted .partStart
  · rintro ⟨parts, nonempty, written⟩
    rw [isDuration, written]
    exact DurationState.accepts_of_parts nonempty

/-! ### Reading a byte size -/

/-- Text that begins with a digit is digits, and what stands behind them. -/
theorem exists_digits {chars : List Char} (begins : chars.head?.any Numeral.isDigit = true) :
    ∃ digits : Digits, chars = digits.chars ++ chars.dropWhile Numeral.isDigit := by
  cases chars with
  | nil => cases begins
  | cons char others =>
    have digit : Numeral.isDigit char = true := begins
    refine ⟨⟨(char :: others).takeWhile Numeral.isDigit, ?_,
      List.all_eq_true.mp List.all_takeWhile⟩, ?_⟩
    · rw [List.takeWhile_cons_of_pos digit]
      exact List.cons_ne_nil char _
    · exact List.takeWhile_append_dropWhile.symm

namespace Digits

theorem head?_append (digits : Digits) (rest : List Char) :
    (digits.chars ++ rest).head?.any Numeral.isDigit = true := by
  obtain ⟨chars, nonempty, decimal⟩ := digits
  cases chars with
  | nil => exact absurd rfl nonempty
  | cons char others => exact decimal char List.mem_cons_self

theorem dropWhile_append (digits : Digits) {rest : List Char}
    (stops : rest.head?.any Numeral.isDigit = false) :
    (digits.chars ++ rest).dropWhile Numeral.isDigit = rest := by
  rw [List.dropWhile_append_of_pos digits.decimal]
  cases rest with
  | nil => rfl
  | cons char others => exact List.dropWhile_cons_of_neg (by simpa using stops)

end Digits

/-- A letter that is written small stands for itself or for its capital, 32 places before it. -/
theorem eq_or_eq_of_toLower {letter small : Char} (capital : Char)
    (places : capital.toNat + 32 = small.toNat) (same : letter.toLower = small) :
    letter = small ∨ letter = capital := by
  unfold Char.toLower at same
  split at same
  · rename_i upper
    right
    have code : (letter.val + ('a'.val - 'A'.val)).toNat = small.toNat := congrArg Char.toNat same
    have limit : letter.val.toNat ≤ 90 := UInt32.le_iff_toNat_le.mp upper.2
    have shift : ('a'.val - 'A'.val).toNat = 32 := rfl
    rw [UInt32.toNat_add, shift, Nat.mod_eq_of_lt (by omega)] at code
    exact Char.toNat_inj.mp (Nat.add_right_cancel (code.trans places.symm))
  · exact .inl same

/-- The letters of units are five, in either case. -/
theorem contains_toLower {letter : Char} :
    ['b', 'k', 'm', 'g', 't'].contains letter.toLower = true ↔ letter ∈ byteLetters := by
  constructor
  · intro known
    have small : letter.toLower ∈ ['b', 'k', 'm', 'g', 't'] := List.contains_iff_mem.mp known
    simp only [List.mem_cons, List.not_mem_nil, or_false] at small
    rcases small with same | same | same | same | same
    · rcases eq_or_eq_of_toLower 'B' rfl same with rfl | rfl <;> decide
    · rcases eq_or_eq_of_toLower 'K' rfl same with rfl | rfl <;> decide
    · rcases eq_or_eq_of_toLower 'M' rfl same with rfl | rfl <;> decide
    · rcases eq_or_eq_of_toLower 'G' rfl same with rfl | rfl <;> decide
    · rcases eq_or_eq_of_toLower 'T' rfl same with rfl | rfl <;> decide
  · have all : byteLetters.all (fun letter =>
        ['b', 'k', 'm', 'g', 't'].contains letter.toLower) = true := by decide
    exact List.all_eq_true.mp all letter

theorem toLower_eq_mark {mark : Char} : (mark.toLower == 'b') = true ↔ mark = 'b' ∨ mark = 'B' := by
  rw [beq_iff_eq]
  constructor
  · exact eq_or_eq_of_toLower 'B' rfl
  · rintro (rfl | rfl) <;> rfl

/-- **Units of byte sizes** are recognised. -/
theorem isByteUnit_iff {chars : List Char} : isByteUnit chars = true ↔
    ∃ unit : Option ByteUnit, chars = (unit.map ByteUnit.chars).getD [] := by
  constructor
  · intro known
    match chars, known with
    | [], _ => exact ⟨none, rfl⟩
    | [letter], known =>
      exact ⟨some ⟨letter, none, contains_toLower.mp known, nofun⟩, rfl⟩
    | [letter, mark], known =>
      obtain ⟨first, second⟩ := Bool.and_eq_true_iff.mp known
      refine ⟨some ⟨letter, some mark, contains_toLower.mp first, ?_⟩, rfl⟩
      rintro _ ⟨⟩
      exact toLower_eq_mark.mp second
  · rintro ⟨unit, rfl⟩
    match unit with
    | none => rfl
    | some ⟨letter, none, isLetter, _⟩ => exact contains_toLower.mpr isLetter
    | some ⟨letter, some mark, isLetter, isMark⟩ =>
      exact Bool.and_eq_true_iff.mpr
        ⟨contains_toLower.mpr isLetter, toLower_eq_mark.mpr (isMark mark rfl)⟩

/-- A unit begins with neither a digit nor a point. -/
theorem head_of_isByteUnit {chars : List Char} (known : isByteUnit chars = true) :
    chars.head?.any Numeral.isDigit = false ∧ ∀ rest, chars ≠ '.' :: rest := by
  obtain ⟨unit, rfl⟩ := isByteUnit_iff.mp known
  cases unit with
  | none => exact ⟨rfl, nofun⟩
  | some unit =>
    have noDigits : byteLetters.all (fun letter => !Numeral.isDigit letter) = true := by decide
    have noPoint : '.' ∉ byteLetters := by decide
    have noDigit := List.all_eq_true.mp noDigits unit.letter unit.isLetter
    refine ⟨(Bool.not_eq_true' _).mp noDigit, fun rest same => noPoint ?_⟩
    rw [← (List.cons.inj same).1]
    exact unit.isLetter

section

variable {value : String} {rest : List Char}

theorem isByteSize_of_point (point : value.toList.dropWhile Numeral.isDigit = '.' :: rest) :
    isByteSize value = (value.toList.head?.any Numeral.isDigit &&
      rest.head?.any Numeral.isDigit && isByteUnit (rest.dropWhile Numeral.isDigit)) := by
  unfold isByteSize
  dsimp only
  rw [point]
  rfl

theorem isByteSize_of_noPoint
    (noPoint : ∀ rest, value.toList.dropWhile Numeral.isDigit ≠ '.' :: rest) :
    isByteSize value = (value.toList.head?.any Numeral.isDigit &&
      isByteUnit (value.toList.dropWhile Numeral.isDigit)) := by
  unfold isByteSize
  dsimp only
  split
  · rename_i rest point
    exact absurd point (noPoint rest)
  · rfl

theorem exists_byteSize (known : isByteSize value = true) :
    ∃ size : ByteSize, value.toList = size.chars := by
  by_cases point : ∃ rest, value.toList.dropWhile Numeral.isDigit = '.' :: rest
  · obtain ⟨rest, point⟩ := point
    rw [isByteSize_of_point point, Bool.and_eq_true, Bool.and_eq_true] at known
    obtain ⟨⟨begins, behind⟩, unit⟩ := known
    obtain ⟨whole, chars⟩ := exists_digits begins
    obtain ⟨fraction, others⟩ := exists_digits behind
    obtain ⟨unit, last⟩ := isByteUnit_iff.mp unit
    refine ⟨⟨⟨whole, some fraction⟩, unit⟩, ?_⟩
    rw [chars, point, others, last, ByteSize.chars, DecimalNumber.chars, List.append_assoc]
    rfl
  · rw [isByteSize_of_noPoint (not_exists.mp point), Bool.and_eq_true] at known
    obtain ⟨begins, unit⟩ := known
    obtain ⟨whole, chars⟩ := exists_digits begins
    obtain ⟨unit, last⟩ := isByteUnit_iff.mp unit
    refine ⟨⟨⟨whole, none⟩, unit⟩, ?_⟩
    rw [chars, last, ByteSize.chars, DecimalNumber.chars, List.append_assoc]
    rfl

theorem isByteSize_of_chars {size : ByteSize} (written : value.toList = size.chars) :
    isByteSize value = true := by
  obtain ⟨⟨whole, fraction⟩, unit⟩ := size
  have known : isByteUnit ((unit.map ByteUnit.chars).getD []) = true :=
    isByteUnit_iff.mpr ⟨unit, rfl⟩
  obtain ⟨noDigit, noPoint⟩ := head_of_isByteUnit known
  rw [ByteSize.chars, DecimalNumber.chars, List.append_assoc] at written
  have begins : value.toList.head?.any Numeral.isDigit = true := by
    rw [written]
    exact whole.head?_append _
  cases fraction with
  | none =>
    have behind : value.toList.dropWhile Numeral.isDigit = (unit.map ByteUnit.chars).getD [] := by
      rw [written]
      exact whole.dropWhile_append noDigit
    rw [isByteSize_of_noPoint (by rw [behind]; exact noPoint), begins, behind, known]
    rfl
  | some digits =>
    have point : value.toList.dropWhile Numeral.isDigit =
        '.' :: (digits.chars ++ (unit.map ByteUnit.chars).getD []) := by
      rw [written]
      exact whole.dropWhile_append rfl
    rw [isByteSize_of_point point, begins, digits.head?_append, digits.dropWhile_append noDigit,
      known]
    rfl

/-- **Byte sizes are a number with a unit or none.** -/
theorem isByteSize_iff :
    isByteSize value = true ↔ ∃ size : ByteSize, value.toList = size.chars :=
  ⟨exists_byteSize, fun ⟨_, written⟩ => isByteSize_of_chars written⟩

end

/-! ### The checks -/

namespace Validation

variable {subject value : String}

theorem duration_eq_ok : duration subject value = .ok () ↔ isDuration value = true := ensure_eq_ok

theorem duration_of_not (other : isDuration value ≠ true) :
    duration subject value = .error (.malformed subject (.isNot value .duration)) :=
  if_neg other

end Validation

/-- What is below the point or above the small letters is no part of a duration: line breaks, blanks
and digits outside ASCII among them. -/
theorem not_isDuration_of_mem {value : String} {char : Char} (member : char ∈ value.toList)
    (outside : char < '.' ∨ 'z' < char) : isDuration value ≠ true := by
  intro known
  obtain ⟨parts, _, written⟩ := isDuration_iff.mp known
  rw [written] at member
  rcases DurationPart.mem_chars member with shown | rfl
  · have codes : char.toNat < 46 ∨ 122 < char.toNat := outside
    rw [code_of_letterOrDigit] at shown
    omega
  · exact absurd outside (by decide)

/-- **Durations and byte sizes are recognised exactly.** A duration is one or more parts, each of
them digits, possibly a point and digits, and a unit. So two durations in a row are one; what is
empty, holds a line break or a digit outside ASCII, or ends in a number without a unit is refused,
and the fault names it. A byte size is digits, possibly a point and digits, and possibly a letter of
five in either case, which a `b` in either case may follow. -/
theorem durations_and_sizes_exact (subject : String) :
    (∀ value : String, Validation.duration subject value = .ok () ↔
      ∃ parts : List DurationPart,
        parts ≠ [] ∧ value.toList = parts.flatMap DurationPart.chars) ∧
    (∀ first second : String, Validation.duration subject first = .ok () →
      Validation.duration subject second = .ok () →
      Validation.duration subject (first ++ second) = .ok ()) ∧
    (∀ value : String, (value = "" ∨ (∃ char ∈ value.toList, char < '.' ∨ 'z' < char) ∨
        ∃ parts : List DurationPart, ∃ number : DecimalNumber,
          value.toList = parts.flatMap DurationPart.chars ++ number.chars) →
      Validation.duration subject value =
        .error (.malformed subject (.isNot value .duration))) ∧
    ∀ value : String, Validation.byteSize subject value = .ok () ↔
      ∃ size : ByteSize, value.toList = size.chars := by
  refine ⟨fun value => Validation.duration_eq_ok.trans isDuration_iff, ?joined, ?refused,
    fun value => Validation.ensure_eq_ok.trans isByteSize_iff⟩
  case joined =>
    intro first second one two
    rw [Validation.duration_eq_ok, isDuration_iff] at one two ⊢
    obtain ⟨parts, nonempty, written⟩ := one
    obtain ⟨others, _, behind⟩ := two
    refine ⟨parts ++ others, List.append_ne_nil_of_left_ne_nil nonempty others, ?_⟩
    rw [String.toList_append, written, behind, List.flatMap_append]
  case refused =>
    rintro value (rfl | ⟨char, member, outside⟩ | ⟨parts, number, written⟩)
    · exact Validation.duration_of_not nofun
    · exact Validation.duration_of_not (not_isDuration_of_mem member outside)
    · refine Validation.duration_of_not (Bool.eq_false_iff.mp ?_)
      rw [isDuration, written]
      exact DurationState.not_accepts_number parts number

theorem durations_and_sizes_exact_joined :
    Validation.duration "interval" "1m" = .ok () ∧
      Validation.duration "interval" "500ms" = .ok () ∧
      Validation.duration "interval" ("1m" ++ "500ms") = .ok () ∧
      Validation.duration "interval" "1m\n" =
        .error (.malformed "interval" (.isNot "1m\n" .duration)) ∧
      Validation.duration "interval" "1m30" =
        .error (.malformed "interval" (.isNot "1m30" .duration)) ∧
      Validation.byteSize "memory" "1.5gB" = .ok () := by
  obtain ⟨_, joined, refused, _⟩ := durations_and_sizes_exact "interval"
  let one := Digits.single '1' rfl
  let five := Digits.single '5' rfl
  let thirty := (Digits.single '3' rfl).push '0' rfl
  refine ⟨rfl, rfl, joined "1m" "500ms" rfl rfl, ?lineBreak, ?noUnit, ?size⟩
  case lineBreak => exact refused "1m\n" (.inr (.inl ⟨'\n', by decide, .inl (by decide)⟩))
  case noUnit =>
    exact refused "1m30" (.inr (.inr ⟨[⟨⟨one, none⟩, .minute⟩], ⟨thirty, none⟩, rfl⟩))
  case size =>
    exact ((durations_and_sizes_exact "memory").2.2.2 "1.5gB").mpr
      ⟨⟨⟨one, some five⟩, some ⟨'g', some 'B', by decide, by simp⟩⟩, rfl⟩

end ContainerStack
