import ContainerStack.Proofs.CoreSchema
import ContainerStack.Proofs.Scalars
import Mathlib.Data.List.TakeWhile

/-!
**Scalars without quotes that are not strings.**

The writer of scalars looks for numbers with the grammar of decimal numbers and with a class of
characters. Neither knows the numbers of the core schema that begin with a mark for their base, nor
its words for infinity and for what is not a number.

* `Core.magnitudeOf?_isSome`: the grammar of decimal numbers, read off the schema.
* `Core.isMarked`, `Core.pointedWords`: the two forms that the writer does not look for.
* `Scalar.write_eq_self`: quotes make another string.
* `Scalar.marked_or_pointed`, `Scalar.needsQuotes_of_marked`, `Scalar.kind_of_pointed`: the two
  forms are all that is written without quotes and taken for something else.
* `Scalar.plain_scalar_retyped`: what a scalar without quotes is taken for.
-/

namespace ContainerStack.Yaml

namespace Core

/-! ### The grammar of decimal numbers -/

theorem isSome_unlessRefused {α : Type} {refused : Bool} {answer : Option α} {accepted : Bool}
    (same : answer.isSome = accepted) :
    (if refused = true then none else answer).isSome = (!refused && accepted) := by
  cases refused with
  | true => rfl
  | false => exact same

theorem isRun_eq (isDigit : Char → Bool) (word : List Char) :
    isRun isDigit word = !(word.isEmpty || !word.all isDigit) := by
  simp only [isRun, Bool.not_or, Bool.not_not]

/-- An exponent is digits with a sign or none. -/
theorem exponentOf?_isSome (text : List Char) :
    (Decimal.exponentOf? text).isSome = isRun Numeral.isDigit (unsigned text) := by
  rw [isRun_eq]
  fun_cases unsigned text with
  | case1 rest => exact (isSome_unlessRefused rfl).trans (Bool.and_true _)
  | case2 rest => exact (isSome_unlessRefused rfl).trans (Bool.and_true _)
  | case3 noPlus noMinus =>
    simp only [Decimal.exponentOf?]
    exact (isSome_unlessRefused rfl).trans (Bool.and_true _)

theorem isDecimal_of_point {word rest : List Char}
    (point : word.dropWhile Numeral.isDigit = '.' :: rest) :
    isDecimal word = (!((word.takeWhile Numeral.isDigit).isEmpty &&
      (rest.takeWhile Numeral.isDigit).isEmpty) && isExponent (rest.dropWhile Numeral.isDigit)) := by
  unfold isDecimal
  rw [point]
  rfl

theorem isDecimal_of_noPoint {word : List Char}
    (noPoint : ∀ rest, word.dropWhile Numeral.isDigit = '.' :: rest → False) :
    isDecimal word = (!(word.takeWhile Numeral.isDigit).isEmpty &&
      isExponent (word.dropWhile Numeral.isDigit)) := by
  unfold isDecimal
  split
  · rename_i rest point
    exact absurd point (noPoint rest)
  · rfl

/-- A mark and an exponent that is read as one are an exponent of the schema. -/
theorem isSome_marked (scaled : Int → Decimal) (mark : Char) (rest : List Char) :
    (if mark = 'e' ∨ mark = 'E' then (Decimal.exponentOf? rest).map scaled else none).isSome =
      isExponent (mark :: rest) := by
  by_cases marks : mark = 'e' ∨ mark = 'E'
  · simp [isExponent, marks, exponentOf?_isSome]
  · simp [isExponent, marks]

/-- **The grammar of decimal numbers is that of the schema.** -/
theorem magnitudeOf?_isSome (negative : Bool) (text : List Char) :
    (Decimal.magnitudeOf? negative text).isSome = isDecimal text := by
  unfold Decimal.magnitudeOf?
  dsimp only
  split
  · rename_i rest point
    rw [isDecimal_of_point point]
    refine isSome_unlessRefused ?_
    cases rest.dropWhile Numeral.isDigit with
    | nil => rfl
    | cons mark others => exact isSome_marked _ mark others
  · rename_i noPoint
    rw [isDecimal_of_noPoint noPoint]
    dsimp only
    rw [List.isEmpty_nil, Bool.and_true]
    refine isSome_unlessRefused ?_
    cases text.dropWhile Numeral.isDigit with
    | nil => rfl
    | cons mark others => exact isSome_marked _ mark others

/-- What the schema takes for a decimal number is read as one. -/
theorem ofString?_isSome {text : String} (decimal : isDecimal (unsigned text.toList) = true) :
    (Decimal.ofString? text).isSome = true := by
  have read (negative : Bool) (chars : List Char) (decimal : isDecimal chars = true) :
      (if chars.map Char.toLower = "nan".toList then some Decimal.nan
        else if chars.map Char.toLower = "inf".toList ∨ chars.map Char.toLower = "infinity".toList
        then some (Decimal.infinity negative)
        else Decimal.magnitudeOf? negative chars).isSome = true := by
    split
    · rfl
    split
    · rfl
    rw [magnitudeOf?_isSome, decimal]
  unfold Decimal.ofString?
  generalize text.toList = chars at decimal ⊢
  fun_cases unsigned chars with
  | case1 rest => exact read false rest decimal
  | case2 rest => exact read true rest decimal
  | case3 noPlus noMinus =>
    simp only [unsigned] at decimal ⊢
    exact read false chars decimal

/-- Digits alone are a decimal number. -/
theorem isDecimal_of_isRun {word : List Char} (run : isRun Numeral.isDigit word = true) :
    isDecimal word = true := by
  rw [isRun, Bool.and_eq_true, List.all_eq_true] at run
  have whole : word.takeWhile Numeral.isDigit = word := List.takeWhile_eq_self_iff.mpr run.2
  have nothing : word.dropWhile Numeral.isDigit = [] := List.dropWhile_eq_nil_iff.mpr run.2
  unfold isDecimal
  rw [nothing, whole]
  simpa [isExponent] using run.1

/-! ### Forms that the writer does not look for -/

/-- Whether a word is octal or hexadecimal digits after the mark of their base. -/
def isMarked : List Char → Bool
  | '0' :: 'o' :: rest => isRun isOctalDigit rest
  | '0' :: 'x' :: rest => isRun Numeral.isHexDigit rest
  | _ => false

/-- The words with a point for infinity, but for those with a minus sign, and for what is not a
number. -/
def pointedWords : List String :=
  [".inf", ".Inf", ".INF", "+.inf", "+.Inf", "+.INF", ".nan", ".NaN", ".NAN"]

theorem isInteger_eq (word : List Char) :
    isInteger word = (isRun Numeral.isDigit (unsigned word) || isMarked word) := rfl

theorem kind_of_free {text : String} (free : text ∉ reservedWords) :
    kind text = if isInteger text.toList then .integer
      else if isFloat text.toList then .float else .string := by
  rw [reservedWords, List.mem_append, not_or] at free
  simp [kind, free.1, free.2]

end Core

namespace Scalar

/-- Between quotes a string is as long as before, or longer. -/
theorem length_le_quotedBody (value : List Char) :
    value.length ≤ (Reading.quotedBody value).length := by
  induction value with
  | nil => exact Nat.le_refl 0
  | cons char rest ih =>
    have several : (quoteChar char).toList ≠ [] := by
      intro nothing
      have decoded := (Reading.escaped_quoteChar char).decoded
      rw [nothing] at decoded
      cases decoded
    have positive := List.length_pos_iff.mpr several
    rw [Reading.quotedBody, List.flatMap_cons, List.length_append, List.length_cons]
    rw [Reading.quotedBody] at ih
    omega

/-- **A string in quotes is another string**, since it is longer. -/
theorem write_eq_self {value : String} : write value = value ↔ needsQuotes value = false := by
  unfold write
  split
  · rename_i quoted
    rw [quoted]
    refine ⟨fun same => ?_, nofun⟩
    have chars := congrArg String.toList same
    rw [Reading.toList_quote] at chars
    have lengths := congrArg List.length chars
    have longer := length_le_quotedBody value.toList
    simp only [List.length_cons, List.length_append, List.length_nil] at lengths
    omega
  · rename_i safe
    exact ⟨fun _ => by simpa using safe, fun _ => rfl⟩

/-! ### Forms that are quoted -/

/-- Every word that means something else than itself is quoted. -/
theorem needsQuotes_of_reserved : ∀ word ∈ Core.reservedWords, needsQuotes word = true := by
  decide +kernel

theorem needsQuotes_of_decimal {text : String}
    (decimal : Core.isDecimal (Core.unsigned text.toList) = true) : needsQuotes text = true := by
  simp [needsQuotes, Core.ofString?_isSome decimal]

/-- The words for infinity are quoted with a minus sign only. -/
theorem pointed_of_infinity {text : String}
    (infinity : Core.infinityWords.contains (Core.unsigned text.toList) = true)
    (safe : needsQuotes text = false) : text ∈ Core.pointedWords := by
  have quotedMinus : ∀ word ∈ Core.infinityWords,
      needsQuotes (String.ofList ('-' :: word)) = true := by decide +kernel
  have plus : ∀ word ∈ Core.infinityWords, String.ofList ('+' :: word) ∈ Core.pointedWords := by
    decide
  have bare : ∀ word ∈ Core.infinityWords, String.ofList word ∈ Core.pointedWords := by decide
  obtain ⟨chars, rfl⟩ : ∃ chars, text = String.ofList chars := ⟨_, text.ofList_toList.symm⟩
  rw [String.toList_ofList, List.contains_iff_mem] at infinity
  revert infinity
  fun_cases Core.unsigned chars with
  | case1 rest => exact plus rest
  | case2 rest =>
    intro infinity
    rw [quotedMinus rest infinity] at safe
    cases safe
  | case3 _ _ => exact bare chars

theorem pointed_of_undefined {text : String}
    (undefined : Core.undefinedWords.contains text.toList = true) : text ∈ Core.pointedWords := by
  have words : ∀ word ∈ Core.undefinedWords, String.ofList word ∈ Core.pointedWords := by decide
  rw [← text.ofList_toList]
  exact words _ (List.contains_iff_mem.mp undefined)

/-- **What is written without quotes and not taken for a string** is a number in another base, or
one of the words for what no digits write. -/
theorem marked_or_pointed {text : String} (safe : needsQuotes text = false)
    (retyped : Core.kind text ≠ .string) :
    (Core.isMarked text.toList = true ∧ Core.kind text = .integer) ∨
      (text ∈ Core.pointedWords ∧ Core.kind text = .float) := by
  have unquoted : ¬ needsQuotes text = true := Bool.not_eq_true _ ▸ safe
  rw [Core.kind_of_free fun word => unquoted (needsQuotes_of_reserved text word)] at retyped ⊢
  split at retyped
  · rename_i integer
    rw [if_pos integer]
    rw [Core.isInteger_eq, Bool.or_eq_true] at integer
    rcases integer with run | marked
    · exact absurd (needsQuotes_of_decimal (Core.isDecimal_of_isRun run)) unquoted
    · exact .inl ⟨marked, rfl⟩
  · rename_i notInteger
    split at retyped
    · rename_i float
      rw [if_neg notInteger, if_pos float]
      simp only [Core.isFloat, Bool.or_eq_true] at float
      rcases float with (decimal | infinity) | undefined
      · exact absurd (needsQuotes_of_decimal decimal) unquoted
      · exact .inr ⟨pointed_of_infinity infinity safe, rfl⟩
      · exact .inr ⟨pointed_of_undefined undefined, rfl⟩
    · exact absurd rfl retyped

/-! ### Forms that are not quoted -/

section Marked

variable {char mark : Char} {text : String} {digits : List Char}

theorem isLetterOrDigit_of_octal (octal : Core.isOctalDigit char = true) :
    isLetterOrDigit char = true := by
  simp only [Core.isOctalDigit, Bool.and_eq_true, decide_eq_true_eq, Char.le_def,
    UInt32.le_iff_toNat_le] at octal
  have limits : 48 ≤ char.toNat ∧ char.toNat ≤ 55 := octal
  rw [code_of_letterOrDigit]
  omega

theorem isLetterOrDigit_of_hexadecimal (hexadecimal : Numeral.isHexDigit char = true) :
    isLetterOrDigit char = true := by
  simp only [Numeral.isHexDigit, Numeral.isDigit, Bool.or_eq_true, Bool.and_eq_true,
    decide_eq_true_eq, Char.le_def, UInt32.le_iff_toNat_le] at hexadecimal
  have limits : (48 ≤ char.toNat ∧ char.toNat ≤ 57 ∨ 97 ≤ char.toNat ∧ char.toNat ≤ 102) ∨
    65 ≤ char.toNat ∧ char.toNat ≤ 70 := hexadecimal
  rw [code_of_letterOrDigit]
  omega

/-- Digits after a mark are a zero, the mark and letters or digits. -/
theorem chars_of_marked (marked : Core.isMarked text.toList = true) :
    ∃ mark digits, text.toList = '0' :: mark :: digits ∧ (mark = 'o' ∨ mark = 'x') ∧
      ∀ char ∈ digits, isLetterOrDigit char = true := by
  unfold Core.isMarked at marked
  split at marked
  · rename_i rest chars
    rw [Core.isRun, Bool.and_eq_true, List.all_eq_true] at marked
    exact ⟨'o', rest, chars, .inl rfl, fun char member =>
      isLetterOrDigit_of_octal (marked.2 char member)⟩
  · rename_i rest chars
    rw [Core.isRun, Bool.and_eq_true, List.all_eq_true] at marked
    exact ⟨'x', rest, chars, .inr rfl, fun char member =>
      isLetterOrDigit_of_hexadecimal (marked.2 char member)⟩
  · cases marked

/-- A mark after the first digit is not part of a decimal number. -/
theorem ofString?_of_mark (chars : text.toList = '0' :: mark :: digits)
    (marks : mark = 'o' ∨ mark = 'x') : Decimal.ofString? text = none := by
  have decimal : Core.isDecimal ('0' :: mark :: digits) = false := by
    rcases marks with rfl | rfl <;> rfl
  have unread := Core.magnitudeOf?_isSome false ('0' :: mark :: digits)
  rw [decimal, Option.isSome_eq_false_iff, Option.isNone_iff_eq_none] at unread
  have noWord (word : List Char) (letter : word.head? ≠ some '0') :
      ('0' :: mark :: digits).map Char.toLower ≠ word := by
    rintro rfl
    exact letter rfl
  unfold Decimal.ofString?
  rw [chars]
  refine (if_neg (noWord "nan".toList (by decide))).trans ((if_neg ?_).trans unread)
  exact not_or.mpr ⟨noWord "inf".toList (by decide), noWord "infinity".toList (by decide)⟩

/-- **Digits after a mark are not quoted.** -/
theorem needsQuotes_of_marked (marked : Core.isMarked text.toList = true) :
    needsQuotes text = false := by
  obtain ⟨mark, digits, chars, marks, shown⟩ := chars_of_marked marked
  have all : ∀ char ∈ text.toList, isLetterOrDigit char = true := by
    rw [chars]
    refine List.forall_mem_cons.mpr ⟨by decide, List.forall_mem_cons.mpr ⟨?_, shown⟩⟩
    rcases marks with rfl | rfl <;> decide
  have absent (other : Char) (outside : isLetterOrDigit other = false) : other ∉ text.toList := by
    intro member
    rw [all other member] at outside
    cases outside
  have blank (found : Option Char) (inside : ∀ char ∈ found, char ∈ text.toList) :
      found.any Text.isBlank = false := by
    cases found with
    | none => rfl
    | some char => exact isBlank_of_letterOrDigit (all char (inside char rfl))
  simp only [needsQuotes, Bool.or_eq_false_iff]
  refine ⟨⟨⟨⟨⟨⟨⟨⟨⟨?empty, ?outer⟩, ?reserved⟩, ?decimal⟩, ?numeric⟩, ?indicator⟩, ?key⟩,
    ?comment⟩, ?colon⟩, ?control⟩
  case empty =>
    rw [beq_eq_false_iff_ne]
    rintro rfl
    cases chars
  case outer =>
    rw [Text.hasOuterBlank, blank _ fun _ => List.mem_of_head?,
      blank _ fun _ => List.mem_of_getLast?]
    rfl
  case reserved =>
    have zeroes : ∀ word ∈ reservedWords, word.toList.head? ≠ some '0' := by decide
    rw [← Bool.not_eq_true, List.contains_iff_mem, chars]
    intro member
    exact zeroes _ member (by simp)
  case decimal => rw [ofString?_of_mark chars marks]; rfl
  case numeric =>
    rw [chars]
    rcases marks with rfl | rfl <;> rfl
  case indicator => rw [chars]; rfl
  case key => exact Reading.holdsIn_eq_false (absent _ (by decide))
  case comment => exact Reading.holdsIn_eq_false (absent _ (by decide))
  case colon =>
    rw [beq_eq_false_iff_ne]
    exact fun last => absent _ (by decide) (List.mem_of_getLast? last)
  case control =>
    rw [Text.hasControl, List.any_eq_false]
    intro char member
    rw [isControl_of_letterOrDigit (all char member)]
    exact Bool.false_ne_true

/-- Digits after a mark are a whole number. -/
theorem kind_of_marked (marked : Core.isMarked text.toList = true) : Core.kind text = .integer := by
  have free : text ∉ Core.reservedWords := by
    intro member
    have quoted := needsQuotes_of_reserved text member
    rw [needsQuotes_of_marked marked] at quoted
    cases quoted
  rw [Core.kind_of_free free, if_pos]
  rw [Core.isInteger_eq, marked, Bool.or_true]

end Marked

/-- The words with a point are not quoted, and none of them is a string. -/
theorem kind_of_pointed : ∀ word ∈ Core.pointedWords,
    needsQuotes word = false ∧ Core.kind word = .float := by decide +kernel

/-- **What a scalar without quotes is taken for.** It is a string, but for octal and hexadecimal
digits after the mark of their base, which are a whole number, and for the words for infinity
without a minus sign and for what is not a number. -/
theorem plain_scalar_retyped (text : String) :
    (write text = text ∧ Core.kind text = .integer ↔ Core.isMarked text.toList = true) ∧
      (write text = text ∧ Core.kind text = .float ↔ text ∈ Core.pointedWords) ∧
      (write text = text → Core.kind text ≠ .nothing ∧ Core.kind text ≠ .truth) := by
  rw [write_eq_self]
  refine ⟨⟨?integer, ?marked⟩, ⟨?float, ?pointed⟩, ?reserved⟩
  case integer =>
    rintro ⟨safe, integer⟩
    rcases marked_or_pointed safe (by rw [integer]; nofun) with ⟨marked, -⟩ | ⟨-, float⟩
    · exact marked
    · cases integer.symm.trans float
  case marked => exact fun marked => ⟨needsQuotes_of_marked marked, kind_of_marked marked⟩
  case float =>
    rintro ⟨safe, float⟩
    rcases marked_or_pointed safe (by rw [float]; nofun) with ⟨-, integer⟩ | ⟨pointed, -⟩
    · cases integer.symm.trans float
    · exact pointed
  case pointed => exact kind_of_pointed text
  case reserved =>
    have excluded {other : Core.Kind} (safe : needsQuotes text = false)
        (others : other ≠ .integer ∧ other ≠ .float ∧ other ≠ .string) :
        Core.kind text ≠ other := by
      rintro rfl
      rcases marked_or_pointed safe others.2.2 with ⟨-, integer⟩ | ⟨-, float⟩
      · exact others.1 integer
      · exact others.2.1 float
    exact fun safe => ⟨excluded safe (by decide), excluded safe (by decide)⟩

/-- A hexadecimal number stays without quotes and is taken for a whole number. -/
theorem plain_hexadecimal : write "0x1F" = "0x1F" ∧ Core.kind "0x1F" = .integer := by
  decide +kernel

end Scalar

end ContainerStack.Yaml
