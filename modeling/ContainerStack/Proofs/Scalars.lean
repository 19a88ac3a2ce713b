import ContainerStack.Validation
import ContainerStack.Yaml.Scalar
import ContainerStack.Yaml.ScalarText

/-!
**Scalars on one line, read back.**

The rules of YAML 1.2 for scalars that stand on one line of a block: plain ones, double-quoted ones,
and lists of double-quoted ones between brackets. Every scalar is text; nothing is taken for a
number, a truth value or nothing.

* `quotedFrom?`, `flowFrom?`, `plainFrom`: the three forms, each with what follows it.
* `scalarFrom?`: the form that the first character announces.
* `Escaped`: how a character stands between double quotes. `escaped_quoteChar`: one form for every
  character; `noControl_quote`: none of them has a control character.
* `Plain`: words that are read as they are.
* `scalarFrom?_quote`, `scalarFrom?_flowList`, `scalarFrom?_write`: what the writer of scalars
  writes is read as what it was given.
-/

namespace ContainerStack.Yaml

/-- What a document holds when nothing is resolved: text, lists, and maps in order. -/
inductive Tree where
  /-- A value that is not given. -/
  | empty
  | text (value : String)
  | sequence (items : List Tree)
  | mapping (entries : List (String × Tree))

namespace Tree

mutual

/-- Decides whether two trees are the same. -/
def decEq : (first second : Tree) → Decidable (first = second)
  | .empty, .empty => isTrue rfl
  | .text first, .text second => decidable_of_iff (first = second) (by simp)
  | .sequence first, .sequence second =>
    have := decEqItems first second
    decidable_of_iff (first = second) (by simp)
  | .mapping first, .mapping second =>
    have := decEqEntries first second
    decidable_of_iff (first = second) (by simp)
  | .empty, .text _ | .empty, .sequence _ | .empty, .mapping _ => isFalse nofun
  | .text _, .empty | .text _, .sequence _ | .text _, .mapping _ => isFalse nofun
  | .sequence _, .empty | .sequence _, .text _ | .sequence _, .mapping _ => isFalse nofun
  | .mapping _, .empty | .mapping _, .text _ | .mapping _, .sequence _ => isFalse nofun

/-- Decides whether two lists of trees are the same. -/
def decEqItems : (first second : List Tree) → Decidable (first = second)
  | [], [] => isTrue rfl
  | one :: first, other :: second =>
    have := decEq one other
    have := decEqItems first second
    decidable_of_iff (one = other ∧ first = second) (by simp)
  | [], _ :: _ | _ :: _, [] => isFalse nofun

/-- Decides whether two lists of entries are the same. -/
def decEqEntries : (first second : List (String × Tree)) → Decidable (first = second)
  | [], [] => isTrue rfl
  | (key, one) :: first, (other, two) :: second =>
    have := decEq one two
    have := decEqEntries first second
    decidable_of_iff (key = other ∧ one = two ∧ first = second) (by simp [and_assoc])
  | [], _ :: _ | _ :: _, [] => isFalse nofun

end

instance : DecidableEq Tree := decEq

end Tree

namespace Reading

/-- Whether a blank or the end of the line comes next. -/
def atGap : List Char → Bool
  | [] => true
  | char :: _ => Source.isSpace char

/-- Whether a character ends a line. -/
def endsLine (char : Char) : Bool := char == '\n' || char == '\r'

/-- Whether text stays on one line. -/
def onOneLine (text : List Char) : Bool := text.all fun char => !endsLine char

theorem onOneLine_iff {text : List Char} :
    onOneLine text = true ↔ '\n' ∉ text ∧ '\r' ∉ text := by
  simp only [onOneLine, endsLine, List.all_eq_true, Bool.not_eq_true', Bool.or_eq_false_iff,
    beq_eq_false_iff_ne]
  constructor
  · exact fun free => ⟨fun feed => (free _ feed).1 rfl, fun carriage => (free _ carriage).2 rfl⟩
  · rintro ⟨noFeed, noCarriage⟩ char member
    exact ⟨fun feed => noFeed (feed ▸ member), fun carriage => noCarriage (carriage ▸ member)⟩

theorem onOneLine_append (first second : List Char) :
    onOneLine (first ++ second) = (onOneLine first && onOneLine second) := List.all_append

/-! ### Double-quoted scalars -/

/-- What one character of a double-quoted scalar does: it closes the scalar, or stands for a
character or for a part of an escape. -/
inductive QuoteStep where
  | close
  | more (next : Escape) (decoded : Option Char)

/-- What a character does between double quotes. -/
def quoteStep? : Escape → Char → Option QuoteStep
  | .outside, char =>
    if char = '"' then some .close
    else if char = '\\' then some (.more .letter none)
    else some (.more .outside (some char))
  | .letter, char =>
    if 0 < escapeDigits char then some (.more (.digits (escapeDigits char) []) none)
    else (escapedChar? char).map fun code => .more .outside (some code)
  | .digits missing read, char =>
    let digits := read ++ [char]
    if missing ≤ 1 then (codeChar? digits).map fun code => .more .outside (some code)
    else some (.more (.digits (missing - 1) digits) none)

/-- The text of a double-quoted scalar after its first quote, and what follows its last one. -/
def quotedFrom? : Escape → List Char → Option (List Char × List Char)
  | _, [] => none
  | escape, char :: rest =>
    match quoteStep? escape char with
    | none => none
    | some .close => some ([], rest)
    | some (.more next decoded) =>
      (quotedFrom? next rest).map fun read => (decoded.toList ++ read.1, read.2)

/-- The text that characters inside a double-quoted scalar stand for. -/
def decodeFrom? : Escape → List Char → Option (Escape × List Char)
  | escape, [] => some (escape, [])
  | escape, char :: rest =>
    match quoteStep? escape char with
    | none => none
    | some .close => none
    | some (.more next decoded) =>
      (decodeFrom? next rest).map fun read => (read.1, decoded.toList ++ read.2)

/-! ### Lists of double-quoted scalars -/

/-- Where the reader of a list between brackets stands. -/
inductive FlowPlace where
  | before
  | inside (escape : Escape) (text : List Char)
  | after

/-- The items of a list after its first bracket, and what follows its last one. -/
def flowFrom? : FlowPlace → List Char → Option (List String × List Char)
  | _, [] => none
  | .before, char :: rest =>
    if Source.isSpace char then flowFrom? .before rest
    else if char = '"' then flowFrom? (.inside .outside []) rest
    else if char = ']' then some ([], rest)
    else none
  | .inside escape text, char :: rest =>
    match quoteStep? escape char with
    | none => none
    | some .close => (flowFrom? .after rest).map fun read => (String.ofList text :: read.1, read.2)
    | some (.more next decoded) => flowFrom? (.inside next (text ++ decoded.toList)) rest
  | .after, char :: rest =>
    if Source.isSpace char then flowFrom? .after rest
    else if char = ',' then flowFrom? .before rest
    else if char = ']' then some ([], rest)
    else none

/-! ### Plain scalars -/

/-- The characters that begin no plain scalar. -/
def plainIndicators : List Char :=
  [',', '[', ']', '\x7b', '\x7d', '#', '&', '*', '!', '|', '>', '\x27', '"', '%', '@', '\x60']

/-- Whether a plain scalar may begin here. -/
def mayBeginPlain : List Char → Bool
  | [] => false
  | char :: rest =>
    if char == '-' || char == '?' || char == ':' then !atGap rest
    else !Source.isSpace char && !plainIndicators.contains char

/-- The text of a plain scalar and what follows it, blanks included. It ends before a colon that a
blank follows, and before a number sign that follows a blank. -/
def plainFrom : List Char → List Char → List Char × List Char
  | blanks, [] => ([], blanks)
  | blanks, char :: rest =>
    if Source.isSpace char then plainFrom (blanks ++ [char]) rest
    else if (char == '#' && !blanks.isEmpty) || (char == ':' && atGap rest) then
      ([], blanks ++ char :: rest)
    else
      let read := plainFrom [] rest
      (blanks ++ char :: read.1, read.2)

/-- The scalar that begins here, and what follows it. -/
def scalarFrom? : List Char → Option (Tree × List Char)
  | '"' :: rest =>
    (quotedFrom? .outside rest).map fun read => (.text (String.ofList read.1), read.2)
  | '[' :: rest => (flowFrom? .before rest).map fun read => (.sequence (read.1.map .text), read.2)
  | chars =>
    if mayBeginPlain chars then
      let read := plainFrom [] chars
      some (.text (String.ofList read.1), read.2)
    else none

/-! ### What is quoted -/

theorem codeChar?_hexPair : ∀ code < 256,
    codeChar? (Scalar.hexPair code).toList = some (Char.ofNat code) := by
  decide +kernel

theorem noControl_hexPair : ∀ code < 256, Text.hasControl (Scalar.hexPair code) = false := by
  decide +kernel

theorem toList_hexPair (code : Nat) : (Scalar.hexPair code).toList =
    [(Nat.digitChar (code / 16)).toUpper, (Nat.digitChar (code % 16)).toUpper] :=
  String.toList_ofList

/-- What is decoded first comes first. -/
theorem decodeFrom?_append {escape middle : Escape} {first : List Char} {text : List Char}
    (begun : decodeFrom? escape first = some (middle, text)) (second : List Char) :
    decodeFrom? escape (first ++ second) =
      (decodeFrom? middle second).map fun read => (read.1, text ++ read.2) := by
  induction first generalizing escape text with
  | nil =>
    cases begun
    simp
  | cons char rest ih =>
    rw [decodeFrom?] at begun
    rw [List.cons_append, decodeFrom?]
    cases step : quoteStep? escape char with
    | none => simp [step] at begun
    | some taken =>
      cases taken with
      | close => simp [step] at begun
      | more next decoded =>
        simp only [step, Option.map_eq_some_iff] at begun ⊢
        obtain ⟨⟨last, read⟩, later, same⟩ := begun
        cases same
        rw [ih later, Option.map_map]
        simp [Function.comp_def]

/-- A character between double quotes stands for itself, or an escape stands for it: one of five
letters, or two hexadecimal digits. -/
inductive Escaped : List Char → Char → Prop where
  | itself {char : Char} (noQuote : char ≠ '"') (noSlash : char ≠ '\\') : Escaped [char] char
  | quote : Escaped ['\\', '"'] '"'
  | slash : Escaped ['\\', '\\'] '\\'
  | feed : Escaped ['\\', 'n'] '\n'
  | carriage : Escaped ['\\', 'r'] '\r'
  | tab : Escaped ['\\', 't'] '\t'
  | code {first second char : Char} (digits : codeChar? [first, second] = some char) :
    Escaped ['\\', 'x', first, second] char

/-- A character is decoded from each of these forms. -/
theorem Escaped.decoded {form : List Char} {char : Char} (escaped : Escaped form char) :
    decodeFrom? .outside form = some (.outside, [char]) := by
  cases escaped with
  | itself noQuote noSlash => simp [decodeFrom?, quoteStep?, noQuote, noSlash]
  | code digits => simp [decodeFrom?, quoteStep?, escapeDigits, digits]
  | _ => decide

theorem code_lt_of_isControl {char : Char} (control : Text.isControl char = true) :
    char.toNat < 256 := by
  simp only [Text.isControl, Bool.or_eq_true, Bool.and_eq_true, decide_eq_true_eq] at control
  omega

/-- **Every character is quoted in one of these forms.** -/
theorem escaped_quoteChar (char : Char) : Escaped (Scalar.quoteChar char).toList char := by
  unfold Scalar.quoteChar
  split
  · rename_i same
    exact same ▸ .quote
  split
  · rename_i same
    exact same ▸ .slash
  split
  · rename_i same
    exact same ▸ .feed
  split
  · rename_i same
    exact same ▸ .carriage
  split
  · rename_i same
    exact same ▸ .tab
  split
  · rename_i control
    have decoded := codeChar?_hexPair char.toNat (code_lt_of_isControl control)
    rw [Char.ofNat_toNat, toList_hexPair] at decoded
    rw [String.toList_append, toList_hexPair]
    exact .code decoded
  · rename_i noQuote noSlash _ _ _ _
    rw [String.toList_singleton]
    exact .itself noQuote noSlash

/-- The characters between the quotes of a quoted string. -/
def quotedBody (value : List Char) : List Char :=
  value.flatMap fun char => (Scalar.quoteChar char).toList

theorem toList_quote (value : String) :
    (Scalar.quote value).toList = '"' :: (quotedBody value.toList ++ ['"']) := by
  rw [Scalar.quote, String.toList_append, String.toList_append, String.toList_join,
    List.flatMap_map]
  rfl

theorem decodeFrom?_quotedBody (value : List Char) :
    decodeFrom? .outside (quotedBody value) = some (.outside, value) := by
  induction value with
  | nil => rfl
  | cons char rest ih =>
    rw [quotedBody, List.flatMap_cons, decodeFrom?_append (escaped_quoteChar char).decoded]
    show (decodeFrom? .outside (quotedBody rest)).map _ = _
    rw [ih]
    rfl

/-- A quoted scalar is read by decoding it. -/
theorem quotedFrom?_decoded {escape last : Escape} {written text : List Char}
    (decoded : decodeFrom? escape written = some (last, text)) (rest : List Char) :
    quotedFrom? escape (written ++ rest) =
      (quotedFrom? last rest).map fun read => (text ++ read.1, read.2) := by
  induction written generalizing escape text with
  | nil =>
    cases decoded
    simp
  | cons char others ih =>
    rw [decodeFrom?] at decoded
    rw [List.cons_append, quotedFrom?]
    cases step : quoteStep? escape char with
    | none => simp [step] at decoded
    | some taken =>
      cases taken with
      | close => simp [step] at decoded
      | more next first =>
        simp only [step, Option.map_eq_some_iff] at decoded ⊢
        obtain ⟨⟨final, read⟩, later, same⟩ := decoded
        cases same
        rw [ih later, Option.map_map]
        simp [Function.comp_def]

/-- So is an item of a list. -/
theorem flowFrom?_decoded {escape last : Escape} {written text : List Char}
    (decoded : decodeFrom? escape written = some (last, text)) (before rest : List Char) :
    flowFrom? (.inside escape before) (written ++ rest) =
      flowFrom? (.inside last (before ++ text)) rest := by
  induction written generalizing escape text before with
  | nil =>
    cases decoded
    simp
  | cons char others ih =>
    rw [decodeFrom?] at decoded
    rw [List.cons_append, flowFrom?]
    cases step : quoteStep? escape char with
    | none => simp [step] at decoded
    | some taken =>
      cases taken with
      | close => simp [step] at decoded
      | more next first =>
        simp only [step, Option.map_eq_some_iff] at decoded ⊢
        obtain ⟨⟨final, read⟩, later, same⟩ := decoded
        cases same
        rw [ih later, List.append_assoc]

/-- **A quoted string is read as the string.** -/
theorem scalarFrom?_quote (value : String) (rest : List Char) :
    scalarFrom? ((Scalar.quote value).toList ++ rest) = some (.text value, rest) := by
  rw [toList_quote, List.cons_append, List.append_assoc, scalarFrom?,
    quotedFrom?_decoded (decodeFrom?_quotedBody value.toList)]
  simp [quotedFrom?, quoteStep?]

/-! ### Lists between brackets -/

/-- An item is read after a bracket or a comma. -/
theorem flowFrom?_item (item : String) (rest : List Char) :
    flowFrom? .before ((Scalar.quote item).toList ++ rest) =
      (flowFrom? .after rest).map fun read => (item :: read.1, read.2) := by
  rw [toList_quote, List.cons_append, List.append_assoc, flowFrom?]
  have notBlank : Source.isSpace '"' = false := by decide
  rw [if_neg (by simp [notBlank]), if_pos rfl,
    flowFrom?_decoded (decodeFrom?_quotedBody item.toList)]
  simp [flowFrom?, quoteStep?]

theorem flowFrom?_items (items : List String) (rest : List Char) :
    flowFrom? .before ((String.intercalate ", " (items.map Scalar.quote)).toList ++ ']' :: rest) =
      some (items, rest) := by
  induction items with
  | nil => simp [flowFrom?, Source.isSpace]
  | cons item others ih =>
    cases others with
    | nil =>
      show flowFrom? .before ((String.intercalate ", " [Scalar.quote item]).toList ++ _) = _
      rw [String.intercalate_singleton, flowFrom?_item]
      simp [flowFrom?, Source.isSpace]
    | cons next more =>
      have comma : (String.intercalate ", " ((item :: next :: more).map Scalar.quote)).toList =
          (Scalar.quote item).toList ++ ',' :: ' ' ::
            (String.intercalate ", " ((next :: more).map Scalar.quote)).toList := by
        simp
      rw [comma, List.append_assoc, flowFrom?_item, List.cons_append, List.cons_append, flowFrom?,
        if_neg (by decide), if_pos rfl, flowFrom?, if_pos (by decide), ih]
      rfl

/-- **A list between brackets is read as the list.** -/
theorem scalarFrom?_flowList (items : List String) (rest : List Char) :
    scalarFrom? ((Scalar.flowList items).toList ++ rest) =
      some (.sequence (items.map .text), rest) := by
  have brackets : (Scalar.flowList items).toList ++ rest =
      '[' :: ((String.intercalate ", " (items.map Scalar.quote)).toList ++ ']' :: rest) := by
    simp [Scalar.flowList]
  rw [brackets, scalarFrom?, flowFrom?_items]
  rfl

/-- Text without control characters stays on its line. -/
theorem onOneLine_of_noControl {text : String} (quiet : Text.hasControl text = false) :
    onOneLine text.toList = true := by
  have absent : ∀ char, Text.isControl char = true → char ∉ text.toList := fun char control there =>
    List.any_eq_false.mp quiet char there control
  exact onOneLine_iff.mpr ⟨absent _ (by decide), absent _ (by decide)⟩

theorem hasControl_append (first second : String) : Text.hasControl (first ++ second) =
    (Text.hasControl first || Text.hasControl second) := by
  rw [Text.hasControl, String.toList_append, List.any_append]
  rfl

/-- **No character is quoted with a control character.** -/
theorem noControl_quoteChar (char : Char) : Text.hasControl (Scalar.quoteChar char) = false := by
  unfold Scalar.quoteChar
  split
  · decide
  split
  · decide
  split
  · decide
  split
  · decide
  split
  · decide
  split
  · rename_i control
    rw [hasControl_append, noControl_hexPair _ (code_lt_of_isControl control)]
    decide
  · rename_i quiet
    simpa [Text.hasControl] using quiet

/-- **A quoted string holds no control character.** -/
theorem noControl_quote (value : String) : Text.hasControl (Scalar.quote value) = false := by
  have body : (quotedBody value.toList).any Text.isControl = false := by
    rw [quotedBody, List.any_flatMap]
    exact List.any_eq_false.mpr fun char _ => Bool.not_eq_true _ ▸ noControl_quoteChar char
  rw [Text.hasControl, toList_quote, List.any_cons, List.any_append, body]
  decide

/-- **A quoted string stays on its line.** -/
theorem onOneLine_quote (value : String) : onOneLine (Scalar.quote value).toList = true :=
  onOneLine_of_noControl (noControl_quote value)

theorem onOneLine_flowList (items : List String) :
    onOneLine (Scalar.flowList items).toList = true := by
  have inner : onOneLine (String.intercalate ", " (items.map Scalar.quote)).toList = true := by
    induction items with
    | nil => decide
    | cons item others ih =>
      cases others with
      | nil =>
        show onOneLine (String.intercalate ", " [Scalar.quote item]).toList = true
        rw [String.intercalate_singleton, onOneLine_quote]
      | cons next more =>
        have comma : (String.intercalate ", " ((item :: next :: more).map Scalar.quote)).toList =
            (Scalar.quote item).toList ++ ([',', ' '] ++
              (String.intercalate ", " ((next :: more).map Scalar.quote)).toList) := by
          simp
        rw [comma, onOneLine_append, onOneLine_append, onOneLine_quote, ih]
        decide
  rw [Scalar.flowList, String.toList_append, String.toList_append, onOneLine_append,
    onOneLine_append, inner]
  decide

/-! ### What is written plainly -/

/-- The word stays on its line and is read as it is, as far as it goes. -/
def Plain (word : List Char) : Prop :=
  onOneLine word = true ∧ mayBeginPlain word = true ∧ plainFrom [] word = (word, [])

instance (word : List Char) : Decidable (Plain word) :=
  inferInstanceAs (Decidable (_ ∧ _ ∧ _))

/-- What may follow a plain word on its line: nothing, or the colon of a key. -/
def Follows (rest : List Char) : Prop := rest = [] ∨ ∃ more, rest = ':' :: more ∧ atGap more = true

/-- A plain word ends where it ended if something that may follow it follows. -/
theorem plainFrom_append {blanks word rest : List Char}
    (read : plainFrom blanks word = (blanks ++ word, [])) (ends : word = [] → blanks = [])
    (follows : Follows rest) : plainFrom blanks (word ++ rest) = (blanks ++ word, rest) := by
  induction word generalizing blanks with
  | nil =>
    rw [ends rfl]
    rcases follows with rfl | ⟨more, rfl, gap⟩
    · rfl
    · rw [List.nil_append, plainFrom, if_neg (by decide), if_pos (by simp [gap])]
      rfl
  | cons char others ih =>
    rw [plainFrom] at read
    rw [List.cons_append, plainFrom]
    by_cases space : Source.isSpace char = true
    · rw [if_pos space] at read ⊢
      have shifted : blanks ++ char :: others = blanks ++ [char] ++ others := by simp
      rw [shifted] at read ⊢
      refine ih read fun empty => ?_
      subst empty
      simp [plainFrom] at read
    · rw [if_neg space] at read ⊢
      by_cases stop : ((char == '#' && !blanks.isEmpty) || (char == ':' && atGap others)) = true
      · rw [if_pos stop] at read
        simp at read
      · rw [if_neg stop] at read
        simp only [Prod.mk.injEq, List.append_cancel_left_eq, List.cons.injEq, true_and] at read
        have continues : ¬((char == '#' && !blanks.isEmpty) ||
            (char == ':' && atGap (others ++ rest))) = true := by
          cases others with
          | nil =>
            simp only [atGap, Bool.and_true, Bool.or_eq_true, not_or] at stop
            simp [stop.1, stop.2]
          | cons next more => exact stop
        have remaining : plainFrom [] others = ([] ++ others, []) := Prod.ext read.1 read.2
        rw [if_neg continues, ih remaining fun _ => rfl]
        rfl

theorem mayBeginPlain_append {word : List Char} (begins : mayBeginPlain word = true)
    {rest : List Char} : mayBeginPlain (word ++ rest) = true := by
  cases word with
  | nil => cases begins
  | cons char others =>
    rw [mayBeginPlain] at begins
    rw [List.cons_append, mayBeginPlain]
    split at begins
    · rename_i sign
      rw [if_pos sign]
      cases others with
      | nil => cases begins
      | cons next more => exact begins
    · rename_i sign
      rw [if_neg sign]
      exact begins

/-- A plain word is not taken for one of the other forms. -/
theorem scalarFrom?_of_mayBegin {chars : List Char} (begins : mayBeginPlain chars = true) :
    scalarFrom? chars =
      some (.text (String.ofList (plainFrom [] chars).1), (plainFrom [] chars).2) := by
  unfold scalarFrom?
  split
  · cases begins
  · cases begins
  · rw [if_pos begins]

/-- **A plain word is read as the word.** -/
theorem scalarFrom?_plain {word rest : List Char} (plain : Plain word) (follows : Follows rest) :
    scalarFrom? (word ++ rest) = some (.text (String.ofList word), rest) := by
  obtain ⟨_, begins, read⟩ := plain
  rw [scalarFrom?_of_mayBegin (mayBeginPlain_append begins),
    plainFrom_append read (fun _ => rfl) follows]
  rfl

/-! ### Which words are plain -/

theorem isSpace_iff {char : Char} : Source.isSpace char = true ↔ char = ' ' ∨ char = '\t' := by
  simp [Source.isSpace]

theorem getLast?_of_cons {char last : Char} {rest : List Char}
    (differs : (char :: rest).getLast? ≠ some last) : rest.getLast? ≠ some last := by
  intro same
  cases rest with
  | nil => cases same
  | cons next more => exact differs (by rw [List.getLast?_cons_cons, same])

/-- What the writer looks for in a string is all that would end a plain scalar early. -/
theorem plainFrom_eq_self {blanks word : List Char} (tabless : ∀ char ∈ word, char ≠ '\t')
    (noKey : Text.holdsIn [':', ' '] word = false)
    (noComment : Text.holdsIn [' ', '#'] word = false)
    (begins : blanks ≠ [] → word.head? ≠ some '#') (noBlank : word.getLast? ≠ some ' ')
    (noColon : word.getLast? ≠ some ':') (full : word = [] → blanks = []) :
    plainFrom blanks word = (blanks ++ word, []) := by
  induction word generalizing blanks with
  | nil =>
    rw [full rfl]
    rfl
  | cons char rest ih =>
    have laterTabless := fun other member => tabless other (List.mem_cons_of_mem char member)
    simp only [Text.holdsIn, Bool.or_eq_false_iff] at noKey noComment
    have later {pending : List Char} := @ih pending laterTabless noKey.2 noComment.2
    rw [plainFrom]
    by_cases space : char = ' '
    · subst space
      rw [if_pos (by decide), later (fun _ same => ?_) (getLast?_of_cons noBlank)
        (getLast?_of_cons noColon) fun empty => ?_, List.append_assoc]
      · rfl
      · cases rest with
        | nil => cases same
        | cons next more =>
          cases same
          exact absurd noComment.1 (by simp)
      · subst empty
        exact absurd rfl noBlank
    · have notSpace : ¬ Source.isSpace char = true := by
        rw [isSpace_iff, not_or]
        exact ⟨space, tabless char List.mem_cons_self⟩
      rw [if_neg notSpace, if_neg ?_, later (fun empty => absurd rfl empty)
        (getLast?_of_cons noBlank) (getLast?_of_cons noColon) fun _ => rfl]
      · rfl
      · simp only [Bool.or_eq_true, Bool.and_eq_true, beq_iff_eq, not_or, not_and]
        refine ⟨fun sign => ?_, fun colon => ?_⟩
        · subst sign
          cases blanks with
          | nil => simp
          | cons blank more => exact absurd rfl (begins (List.cons_ne_nil _ _))
        · subst colon
          cases rest with
          | nil => exact absurd rfl noColon
          | cons next more =>
            have notTab := laterTabless next List.mem_cons_self
            rw [atGap, isSpace_iff, not_or]
            refine ⟨fun blank => ?_, notTab⟩
            subst blank
            exact absurd noKey.1 (by simp)

theorem mayBeginPlain_of_not_indicator {word : List Char} (full : word ≠ [])
    (noBlank : word.head?.any Text.isBlank = false)
    (noIndicator : word.head?.any Scalar.isIndicator = false) : mayBeginPlain word = true := by
  cases word with
  | nil => exact absurd rfl full
  | cons char rest =>
    have notBlank : Text.isBlank char = false := noBlank
    have notIndicator : Scalar.isIndicator char = false := noIndicator
    simp only [Scalar.isIndicator, List.contains_eq_mem, List.mem_cons, decide_eq_false_iff_not,
      not_or] at notIndicator
    have notSpace : Source.isSpace char = false := by
      cases space : Source.isSpace char with
      | false => rfl
      | true =>
        rcases isSpace_iff.mp space with rfl | rfl <;> exact absurd notBlank (by decide)
    rw [mayBeginPlain, if_neg (by simp_all)]
    simp_all [plainIndicators]

/-- **A string that is not quoted is a plain word.** -/
theorem plain_of_not_needsQuotes {value : String} (safe : Scalar.needsQuotes value = false) :
    Plain value.toList := by
  simp only [Scalar.needsQuotes, Bool.or_eq_false_iff] at safe
  obtain ⟨⟨⟨⟨⟨⟨⟨⟨⟨empty, outer⟩, _⟩, _⟩, _⟩, indicator⟩, key⟩, comment⟩, colon⟩, control⟩ := safe
  have full : value.toList ≠ [] := fun nothing => by simp_all
  simp only [Text.hasOuterBlank, Bool.or_eq_false_iff] at outer
  have quiet : ∀ char ∈ value.toList, Text.isControl char = false := by
    simpa [Text.hasControl] using control
  refine ⟨?_, ?_, plainFrom_eq_self (fun char member same => ?_) key comment
    (fun empty => absurd rfl empty) (fun last => ?_) (by simpa using colon) fun _ => rfl⟩
  · exact onOneLine_of_noControl control
  · exact mayBeginPlain_of_not_indicator full outer.1 indicator
  · subst same
    exact absurd (quiet _ member) (by decide)
  · rw [last] at outer
    exact absurd outer.2 (by decide)

/-- The characters of names. -/
def isNameChar (char : Char) : Bool :=
  isLetterOrDigit char || char == '_' || char == '.' || char == '-'

theorem holdsIn_eq_false {first : Char} {more word : List Char} (absent : first ∉ word) :
    Text.holdsIn (first :: more) word = false := by
  induction word with
  | nil => rfl
  | cons char rest ih =>
    rw [List.mem_cons, not_or] at absent
    simp [Text.holdsIn, List.isPrefixOf, absent.1, ih absent.2]

theorem mayBeginPlain_of_letterOrDigit {char : Char} (letter : isLetterOrDigit char = true)
    (rest : List Char) : mayBeginPlain (char :: rest) = true := by
  have differs : ∀ other, isLetterOrDigit other = false → char ≠ other := by
    rintro other outside rfl
    rw [letter] at outside
    cases outside
  rw [mayBeginPlain, if_neg]
  · simp only [Source.isSpace, plainIndicators, List.contains_eq_mem, List.mem_cons,
      Bool.and_eq_true, Bool.not_eq_true', Bool.or_eq_false_iff, beq_eq_false_iff_ne, ne_eq,
      decide_eq_false_iff_not, not_or, List.not_mem_nil, not_false_iff, and_true]
    and_intros <;> exact differs _ (by decide)
  · simp only [Bool.or_eq_true, beq_iff_eq, not_or]
    and_intros <;> exact differs _ (by decide)

/-- **The name of an entity is a plain word.** -/
theorem plain_of_isEntityName {name : String} (valid : isEntityName name = true) :
    Plain name.toList := by
  unfold isEntityName hasShape at valid
  cases chars : name.toList with
  | nil =>
    rw [chars] at valid
    cases valid
  | cons char rest =>
    rw [chars, Bool.and_eq_true] at valid
    have allowed : ∀ other ∈ char :: rest, isNameChar other = true := by
      intro other member
      rcases List.mem_cons.mp member with rfl | later
      · simp [isNameChar, valid.1]
      · exact List.all_eq_true.mp valid.2 other later
    have absent : ∀ other, isNameChar other = false → other ∉ char :: rest := by
      intro other outside member
      rw [allowed other member] at outside
      cases outside
    refine ⟨?_, mayBeginPlain_of_letterOrDigit valid.1 rest, plainFrom_eq_self ?_ ?_ ?_ ?_ ?_ ?_ ?_⟩
    · exact onOneLine_iff.mpr ⟨absent _ (by decide), absent _ (by decide)⟩
    · rintro other member rfl
      exact absent _ (by decide) member
    · exact holdsIn_eq_false (absent _ (by decide))
    · exact holdsIn_eq_false (absent _ (by decide))
    · exact fun empty => absurd rfl empty
    · exact fun last => absent _ (by decide) (List.mem_of_getLast? last)
    · exact fun last => absent _ (by decide) (List.mem_of_getLast? last)
    · exact fun _ => rfl

/-- **A string is read as it was, whether it is quoted or not.** -/
theorem scalarFrom?_write (value : String) {rest : List Char} (follows : Follows rest) :
    scalarFrom? ((Scalar.write value).toList ++ rest) = some (.text value, rest) := by
  unfold Scalar.write
  split
  · exact scalarFrom?_quote value rest
  · rename_i safe
    rw [scalarFrom?_plain (plain_of_not_needsQuotes (by simpa using safe)) follows,
      String.ofList_toList]

/-- No two strings are written alike. -/
theorem write_inj {value other : String} :
    Scalar.write value = Scalar.write other ↔ value = other := by
  refine ⟨fun same => ?_, congrArg Scalar.write⟩
  have read : scalarFrom? ((Scalar.write value).toList ++ []) = some (.text value, []) :=
    scalarFrom?_write value (.inl rfl)
  rw [same, scalarFrom?_write other (.inl rfl)] at read
  cases read
  rfl

theorem onOneLine_write (value : String) : onOneLine (Scalar.write value).toList = true := by
  unfold Scalar.write
  split
  · exact onOneLine_quote value
  · rename_i safe
    exact (plain_of_not_needsQuotes (by simpa using safe)).1

end Reading

end ContainerStack.Yaml
