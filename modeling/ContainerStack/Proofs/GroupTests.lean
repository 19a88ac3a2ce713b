import ContainerStack.Proofs.AccountChecks
import ContainerStack.Proofs.LineEnds
import ContainerStack.Proofs.WordReading

/-!
**What the test for a group finds.**

The test searches the file of groups for a basic regular expression with the name of the group in
it. A name may hold points, and a point of an expression stands for any character; no other
character of a name is special. So the test finds every line that looks like that of the group up to
its points, and a missing group whose name holds a point can be taken for another one.

* `Text.Expression`, `Text.Expression.read?`: basic regular expressions with single characters,
  repetitions and anchors. Brackets, groups and counted repetitions are not read.
* `Text.Expression.selects`: whether a line holds what an expression describes.
* `Text.Search.read?`: the expression and the file of a search, as a shell hands them on.
* `Account.Resembles`, `Account.Names`: a line looks like that of a group, and is it.
* `Account.read?_name`, `Account.selects_name`: how the name of a group is read, and what it finds.
* `groups_found_up_to_points`: the test of an account. `absent_group_found`: one that is fooled.
-/

namespace ContainerStack

namespace Text

/-! ### Basic regular expressions -/

/-- What an expression asks of one character. -/
inductive Single where
  | exact (char : Char)
  | any
  deriving DecidableEq, Repr

namespace Single

/-- What a character of an expression stands for unless it is special in another way. -/
def ofChar (char : Char) : Single := if char = '.' then any else exact char

/-- Whether a character of a line is as asked. A point takes every character but the null one. -/
def takes : Single → Char → Bool
  | exact own, char => char == own
  | any, char => char != '\x00'

end Single

/-- One character, or any number of characters of one kind in a row. -/
structure Item where
  single : Single
  isRepeated : Bool
  deriving DecidableEq, Repr

namespace Item

/-- One character. -/
def once (single : Single) : Item := ⟨single, false⟩

/-- What may follow in a text after the item was found at its start. -/
def rests (item : Item) : List Char → List (List Char)
  | [] => if item.isRepeated then [[]] else []
  | char :: rest =>
    let taken := if !item.single.takes char then [] else
      if item.isRepeated then item.rests rest else [rest]
    if item.isRepeated then (char :: rest) :: taken else taken

end Item

/-- Items in a row, and whether they have to stand at the start or at the end of a line. -/
structure Expression where
  atStart : Bool
  items : List Item
  atEnd : Bool
  deriving DecidableEq, Repr

namespace Expression

/-- The characters that mean something of their own, unless a backslash stands before them. -/
def isSpecial (char : Char) : Bool := ['.', '[', '\\', '*', '^', '$'].contains char

/-- The items of an expression and whether it ends at the end of a line. The single character that
was read last is held back, since an asterisk after it repeats it. -/
def itemsFrom? : Option Single → List Char → Option (List Item × Bool)
  | held, [] => some (held.toList.map .once, false)
  | held, char :: rest =>
    if char = '*' then
      match held with
      | none => none
      | some single => (itemsFrom? none rest).map fun read => (⟨single, true⟩ :: read.1, read.2)
    else if char = '$' && rest.isEmpty then some (held.toList.map .once, true)
    else if char = '[' then none
    else if char = '\\' then
      match rest with
      | [] => none
      | next :: more =>
        if isSpecial next then
          (itemsFrom? (some (.exact next)) more).map fun read =>
            (held.toList.map .once ++ read.1, read.2)
        else none
    else
      (itemsFrom? (some (.ofChar char)) rest).map fun read =>
        (held.toList.map .once ++ read.1, read.2)

/-- The expression that a text writes. A circumflex at its start asks for the start of a line, and
an asterisk with nothing before it stands for itself. -/
def read? (text : String) : Option Expression :=
  let atStart := text.toList.head? == some '^'
  let chars := if atStart then text.toList.drop 1 else text.toList
  let read := if chars.head? == some '*' then itemsFrom? (some (.exact '*')) (chars.drop 1)
    else itemsFrom? none chars
  read.map fun (items, atEnd) => ⟨atStart, items, atEnd⟩

/-- What may follow in a text after items were found at its start. -/
def restsOf : List Item → List Char → List (List Char)
  | [], chars => [chars]
  | item :: others, chars => (item.rests chars).flatMap (restsOf others)

/-- Whether a line holds what the expression describes. -/
def selects (expression : Expression) (line : String) : Bool :=
  let starts := if expression.atStart then [line.toList] else line.toList.tails
  starts.any fun chars =>
    (restsOf expression.items chars).any fun rest => !expression.atEnd || rest.isEmpty

example : (read? "^a\\.b*:$").map
    (fun expression => ["a.:", "a.bb:", "axb:", "a.b:x"].map expression.selects) =
      some [true, true, false, false] := by decide +kernel

/-- The characters that are read one by one: all but those that repeat, anchor, escape or open
brackets. -/
def IsSimple (char : Char) : Prop := char ≠ '*' ∧ char ≠ '$' ∧ char ≠ '[' ∧ char ≠ '\\'

theorem itemsFrom?_simple {chars : List Char} (simple : ∀ char ∈ chars, IsSimple char)
    (held : Option Single) : itemsFrom? held chars =
      some ((held.toList ++ chars.map Single.ofChar).map .once, false) := by
  induction chars generalizing held with
  | nil => simp [itemsFrom?]
  | cons char rest ih =>
    obtain ⟨notStar, notEnd, notBracket, notSlash⟩ := simple char List.mem_cons_self
    have later := ih (fun other member => simple other (List.mem_cons_of_mem char member))
      (some (.ofChar char))
    unfold itemsFrom?
    simp [notStar, notEnd, notBracket, notSlash, later]

/-- **Single characters are found** where each of them takes one of the line. -/
theorem mem_restsOf_once {singles : List Single} {chars rest : List Char} :
    rest ∈ restsOf (singles.map .once) chars ↔ ∃ beginning, chars = beginning ++ rest ∧
      List.Forall₂ (fun single char => single.takes char = true) singles beginning := by
  induction singles generalizing chars with
  | nil =>
    rw [List.map_nil, restsOf, List.mem_singleton]
    constructor
    · rintro rfl
      exact ⟨[], rfl, .nil⟩
    · rintro ⟨_, same, _ | _⟩
      exact same.symm
  | cons single others ih =>
    cases chars with
    | nil => simp [restsOf, Item.rests, Item.once]
    | cons char more =>
      have step : restsOf ((single :: others).map .once) (char :: more) =
          if single.takes char then restsOf (others.map .once) more else [] := by
        cases taken : single.takes char <;> simp [restsOf, Item.rests, Item.once, taken]
      rw [step]
      constructor
      · intro member
        split at member
        · obtain ⟨beginning, rfl, each⟩ := ih.mp member
          exact ⟨char :: beginning, rfl, .cons ‹_› each⟩
        · cases member
      · rintro ⟨_, same, _ | ⟨taken, each⟩⟩
        cases same
        rw [if_pos taken]
        exact ih.mpr ⟨_, rfl, each⟩

end Expression

/-! ### Searches -/

namespace Search

/-- The expression and the file of a quiet search. Between single quotes a shell hands every
character on as it is. -/
def read? (command : String) : Option (String × String) :=
  match after? "grep -q '" command with
  | none => none
  | some given =>
    match cutAt? '\x27' given with
    | none => none
    | some (expression, behind) => (after? " " behind).map fun file => (expression, file)

theorem read?_quoted {expression : String} (free : '\x27' ∉ expression.toList) (file : String) :
    read? ("grep -q '" ++ expression ++ "' " ++ file) = some (expression, file) := by
  have given : after? "grep -q '" ("grep -q '" ++ expression ++ "' " ++ file) =
      some (expression ++ String.singleton '\x27' ++ (" " ++ file)) := by
    rw [after?_eq_some]
    simp only [String.append_assoc]
    rfl
  have behind : after? " " (" " ++ file) = some file := after?_eq_some.mpr rfl
  rw [read?, given]
  simp only [cutAt?_append free, behind]
  rfl

end Search

end Text

namespace Script

open Text (Expression)

namespace Account

/-! ### Names of groups as expressions -/

variable {group line : String}

/-- The line is that of the group. -/
def Names (group line : String) : Prop := ∃ rest, line = group ++ ":" ++ rest

/-- A character of a line is that of the name, or stands in the place of a point. -/
def Passes (own char : Char) : Prop := char = own ∨ own = '.' ∧ char ≠ '\x00'

/-- The line looks like that of the group, up to the points of its name. -/
def Resembles (group line : String) : Prop :=
  ∃ beginning rest, line.toList = beginning ++ ':' :: rest ∧
    List.Forall₂ Passes group.toList beginning

/-- No character of an account's name is special in an expression, points apart. -/
theorem isSimple_of_isAccountName (valid : isAccountName group = true) :
    ∀ char ∈ (group ++ ":").toList, Expression.IsSimple char := by
  intro char member
  rw [String.toList_append, List.mem_append] at member
  rcases member with own | colon
  · have differs : ∀ other, isLetterOrDigit other = false → other ≠ '_' → other ≠ '.' →
        other ≠ '-' → char ≠ other := by
      rintro other outside notLine notPoint notDash rfl
      exact Text.notMem_of_shape valid (by simp [outside, notLine])
        (by simp [outside, notLine, notPoint, notDash]) own
    and_intros <;> exact differs _ (by decide) (by decide) (by decide) (by decide)
  · cases List.mem_singleton.mp colon
    exact ⟨by decide, by decide, by decide, by decide⟩

/-- The expression of a group's name. -/
def nameExpression (group : String) : Expression :=
  ⟨true, ((group ++ ":").toList.map Text.Single.ofChar).map .once, false⟩

theorem read?_name (valid : isAccountName group = true) :
    Expression.read? ("^" ++ group ++ ":") = some (nameExpression group) := by
  have simple := isSimple_of_isAccountName valid
  have chars : ("^" ++ group ++ ":").toList = '^' :: (group ++ ":").toList := by simp
  have noStar : (group ++ ":").toList.head? ≠ some '*' := fun first =>
    (simple '*' (List.mem_of_mem_head? first)).1 rfl
  rw [Expression.read?, chars]
  simp only [List.head?_cons, beq_self_eq_true, if_true, List.drop_one, List.tail_cons, beq_iff_eq,
    noStar, if_false, Expression.itemsFrom?_simple simple]
  rfl

theorem takes_ofChar (own char : Char) :
    (Text.Single.ofChar own).takes char = true ↔ Passes own char := by
  unfold Passes
  by_cases point : own = '.'
  · subst point
    simp only [Text.Single.ofChar, if_true, Text.Single.takes, bne_iff_ne, true_and]
    exact ⟨.inr, fun either => either.elim (by rintro rfl; decide) id⟩
  · simp [Text.Single.ofChar, point, Text.Single.takes]

theorem forall₂_concat {α β : Type} {related : α → β → Prop} {first : List α} {last : α}
    {items : List β} (each : List.Forall₂ related (first ++ [last]) items) :
    ∃ before final, items = before ++ [final] ∧ List.Forall₂ related first before ∧
      related last final := by
  induction first generalizing items with
  | nil =>
    obtain _ | ⟨here, _ | _⟩ := each
    exact ⟨[], _, rfl, .nil, here⟩
  | cons own rest ih =>
    obtain _ | ⟨here, later⟩ := each
    obtain ⟨before, final, rfl, others, ended⟩ := ih later
    exact ⟨_ :: before, final, rfl, .cons here others, ended⟩

/-- **The expression of a name finds what looks like it**, up to its points. -/
theorem selects_name : (nameExpression group).selects line = true ↔ Resembles group line := by
  have found : (nameExpression group).selects line = true ↔
      ∃ rest, rest ∈ Expression.restsOf (nameExpression group).items line.toList := by
    unfold Expression.selects
    simp [nameExpression]
  have ended : (group ++ ":").toList = group.toList ++ [':'] := String.toList_append
  rw [found]
  unfold nameExpression
  simp only [Expression.mem_restsOf_once, List.forall₂_map_left_iff, takes_ofChar, ended]
  constructor
  · rintro ⟨rest, _, same, each⟩
    obtain ⟨beginning, colon, rfl, name, marked⟩ := forall₂_concat each
    obtain rfl : colon = ':' := marked.resolve_right nofun
    exact ⟨beginning, rest, by rw [same, List.append_assoc]; rfl, name⟩
  · rintro ⟨beginning, rest, same, each⟩
    refine ⟨rest, beginning ++ [':'], ?_, List.rel_append each (.cons (.inl rfl) .nil)⟩
    rw [same, List.append_assoc]
    rfl

/-- The line of a group looks like itself. -/
theorem Names.resembles (names : Names group line) : Resembles group line := by
  obtain ⟨rest, rfl⟩ := names
  refine ⟨group.toList, rest.toList, by simp, ?_⟩
  exact List.forall₂_same.mpr fun _ _ => .inl rfl

theorem eq_of_pointless {name beginning : List Char} (each : List.Forall₂ Passes name beginning)
    (pointless : '.' ∉ name) : beginning = name := by
  induction each with
  | nil => rfl
  | cons here _ ih =>
    rw [List.mem_cons, not_or] at pointless
    rw [ih pointless.2, here.resolve_right fun point => pointless.1 point.1.symm]

/-- **Without a point in the name** nothing else looks like the line of the group. -/
theorem Resembles.names (resembles : Resembles group line) (pointless : '.' ∉ group.toList) :
    Names group line := by
  obtain ⟨beginning, rest, same, each⟩ := resembles
  refine ⟨String.ofList rest, ?_⟩
  rw [← String.toList_inj, same, eq_of_pointless each pointless]
  simp

/-- The line of another group, with the points of a name replaced. -/
def impostor (group : String) : String :=
  String.ofList (group.toList.map fun char => if char = '.' then 'x' else char) ++ ":"

theorem resembles_impostor (group : String) : Resembles group (impostor group) := by
  refine ⟨group.toList.map fun char => if char = '.' then 'x' else char, [], ?_, ?_⟩
  · simp [impostor]
  · rw [List.forall₂_map_right_iff]
    refine List.forall₂_same.mpr fun char _ => ?_
    by_cases point : char = '.'
    · exact .inr ⟨point, by simp [point]⟩
    · exact .inl (if_neg point)

/-- **With a point in the name** there is something else that looks like the line of the group. -/
theorem not_names_impostor (pointed : '.' ∈ group.toList) : ¬ Names group (impostor group) := by
  rintro ⟨rest, same⟩
  have chars := congrArg String.toList same
  simp only [impostor, String.toList_append, String.toList_ofList, List.append_assoc] at chars
  have own := (List.append_inj chars (by simp)).1
  rw [← own] at pointed
  obtain ⟨char, _, point⟩ := List.mem_map.mp pointed
  split at point <;> simp_all

/-! ### The test of an account -/

theorem built_ofCalls {name : String} {calls : List Call} {account : Account}
    (made : ofCalls name calls = .ok account) : account.Built := by
  obtain ⟨start, named, accepted⟩ := Edit.bind_eq_ok.mp made
  refine Edit.foldlM_keeps Built (fun account call next built changed => ?_) accepted
    (.ofName named)
  cases call with
  | group group => exact built.withGroup changed
  | ensureGroup => exact built.ensureGroup changed
  | ensureUser =>
    cases changed
    exact built.ensureUser
  | assignGroup => exact built.assignGroup changed

/-- The first step of a branch stands on a line of its own. -/
theorem mem_branchLines (step : String) (rest : List String) :
    ∃ ending, "  " ++ step ++ ending ∈ branchLines (step :: rest) := by
  cases rest with
  | nil => exact ⟨";", List.mem_cons_self⟩
  | cons next others => exact ⟨" &&", List.mem_cons_self⟩

/-- **A group that has to be there is tested for in both branches**, before it is created. -/
theorem mem_bootstrap {account : Account} {group : String} (ensures : account.ensuresGroup = true)
    (given : account.group = some group) :
    ∃ lines, account.bootstrap = some (.run lines) ∧
      ∀ tools ∈ [alpineTools, shadowTools], ∃ ending,
        "  " ++ ("(" ++ groupExists group ++ " || " ++ tools.createGroup group ++ ")") ++ ending ∈
          lines := by
  have needed : account.needsDetection = true := by simp [needsDetection, ensures]
  have first (tools : Tools) : ∃ rest, account.steps tools =
      ("(" ++ groupExists group ++ " || " ++ tools.createGroup group ++ ")") :: rest := by
    rw [steps, ensures, given]
    exact ⟨_, rfl⟩
  rw [bootstrap, if_pos needed]
  refine ⟨_, rfl, fun tools member => ?_⟩
  obtain ⟨rest, begun⟩ := first tools
  obtain ⟨ending, there⟩ := mem_branchLines _ rest
  rw [← begun] at there
  refine ⟨ending, ?_⟩
  rcases List.mem_pair.mp member with rfl | rfl
  · exact List.mem_append_left _ (List.mem_append_left _ (List.mem_append_left _
      (List.mem_append_right _ there)))
  · exact List.mem_append_left _ (List.mem_append_right _ there)

theorem read?_groupExists (valid : isAccountName group = true) :
    Text.Search.read? (groupExists group) = some ("^" ++ group ++ ":", "/etc/group") := by
  have quoteless : '\x27' ∉ ("^" ++ group ++ ":").toList := by
    have free : '\x27' ∉ group.toList := Text.notMem_of_shape valid rfl rfl
    simpa using free
  have command : groupExists group =
      "grep -q '" ++ ("^" ++ group ++ ":") ++ "' " ++ "/etc/group" := by
    rw [← String.toList_inj]
    simp [groupExists]
  rw [command, Text.Search.read?_quoted quoteless]

end Account

open Account

/-- **The test for a group finds what looks like it up to its points.** An account that makes sure
of its group tests for it in both branches, and creates it where the test finds nothing. The test
selects exactly the lines that look like that of the group, where a point of its name stands for any
character. So it tells the group from all others, and a group that is missing is created whatever
else there is, if and only if the name holds no point. -/
theorem groups_found_up_to_points {name : String} {calls : List Account.Call} {account : Account}
    (made : ofCalls name calls = .ok account) (ensures : account.ensuresGroup = true) :
    ∃ group expression, account.group = some group ∧ isAccountName group = true ∧
      (∃ lines, account.bootstrap = some (.run lines) ∧
        ∀ tools ∈ [alpineTools, shadowTools], ∃ ending,
          "  " ++ ("(" ++ groupExists group ++ " || " ++ tools.createGroup group ++ ")") ++
            ending ∈ lines) ∧
      Text.Search.read? (groupExists group) = some ("^" ++ group ++ ":", "/etc/group") ∧
      Expression.read? ("^" ++ group ++ ":") = some expression ∧
      (∀ line, expression.selects line = true ↔ Resembles group line) ∧
      (∀ line, Names group line → expression.selects line = true) ∧
      ((∀ line, expression.selects line = true ↔ Names group line) ↔ '.' ∉ group.toList) ∧
      ((∀ lines : List String, (∀ line ∈ lines, ¬ Names group line) →
        lines.any expression.selects = false) ↔ '.' ∉ group.toList) := by
  obtain ⟨group, given⟩ := Option.isSome_iff_exists.mp
    ((follows_ofCalls made).grouped .group nofun ensures)
  have valid : isAccountName group = true := (built_ofCalls made).plain.group group given
  have fooled (pointed : '.' ∈ group.toList) :
      (nameExpression group).selects (impostor group) = true ∧ ¬ Names group (impostor group) :=
    ⟨selects_name.mpr (resembles_impostor group), not_names_impostor pointed⟩
  refine ⟨group, nameExpression group, given, valid, mem_bootstrap ensures given,
    read?_groupExists valid, read?_name valid, fun line => selects_name,
    fun line names => selects_name.mpr names.resembles,
    ⟨fun exact' pointed => ?told, fun pointless line => ?only⟩,
    ⟨fun created pointed => ?hidden, fun pointless lines absent => ?created⟩⟩
  case told => exact (fooled pointed).2 ((exact' _).mp (fooled pointed).1)
  case only => exact selects_name.trans ⟨fun looks => looks.names pointless, Names.resembles⟩
  case hidden =>
    have unseen := created [impostor group] (by simpa using (fooled pointed).2)
    simp [(fooled pointed).1] at unseen
  case created =>
    refine List.any_eq_false.mpr fun line member selected => ?_
    exact absent line member ((selects_name.mp selected).names pointless)

theorem groups_found_up_to_points_hyphen :
    ∃ account expression,
      ofCalls "svc" [.group "www-data", .ensureUser, .ensureGroup] = .ok account ∧
      account.ensuresGroup = true ∧ Expression.read? "^www-data:" = some expression ∧
      (∀ line, expression.selects line = true ↔ Names "www-data" line) ∧
      (["www-data:x:33:", "www-data2:x:34:", "old:www-data:x:33:"].map expression.selects) =
        [true, false, false] := by
  have made : ofCalls "svc" [.group "www-data", .ensureUser, .ensureGroup] = .ok _ := rfl
  obtain ⟨group, expression, given, _, _, _, read, _, _, exactly, _⟩ :=
    groups_found_up_to_points made rfl
  cases given
  cases (@read?_name "www-data" rfl).symm.trans read
  exact ⟨_, _, made, rfl, read, exactly.mpr (by decide), by decide⟩

/-- **A group that is absent can be found**: another group stands where its name has a point. -/
theorem absent_group_found :
    ∃ account expression, ofCalls "svc" [.group "a.b", .ensureGroup] = .ok account ∧
      account.ensuresGroup = true ∧ account.group = some "a.b" ∧
      Text.Search.read? (groupExists "a.b") = some ("^a.b:", "/etc/group") ∧
      Expression.read? "^a.b:" = some expression ∧
      expression.selects "axb:x:1000:" = true ∧ ¬ Names "a.b" "axb:x:1000:" := by
  refine ⟨_, nameExpression "a.b", rfl, rfl, rfl, by decide, by decide, by decide, ?_⟩
  rintro ⟨rest, same⟩
  have chars := congrArg String.toList same
  simp at chars

end Script

end ContainerStack
