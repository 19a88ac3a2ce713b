import ContainerStack.Edit
import Mathlib.Data.List.Forall2
import Mathlib.Logic.Relation

/-!
**What an edit does to its value, step by step.**

* `Edit.apply_bind` and its companions: how an edit that is put together of others runs.
* `Edit.Asks`: the edit looks at its value and leaves it alone.
* `Edit.Atomic`: a refusal leaves the value as it was before.
* `Edit.Settles`: the two ends of an edit, built up from the checks that come first and the one
  assignment that comes last (`Edit.Assigns`).
* `Edit.Leads`: the values that a chain of admitted moves leads to, each of which may be refused.
  `Edit.run` is such a chain, given as a list.
* `Edit.Through`, `Edit.Change`: an edit that changes its value by admitted moves only.
  `Leads.keeps`: what every move keeps is kept along a chain.
* `Edit.Made`: a value that was created and then changed by admitted moves.
-/

namespace ContainerStack.Edit

variable {σ α β : Type}

/-! ### Running edits -/

/-- **A sequence of checks is accepted step by step.** -/
theorem bind_eq_ok {first : Except Fault α} {next : α → Except Fault β} {result : β} :
    (first >>= next) = .ok result ↔ ∃ answer, first = .ok answer ∧ next answer = .ok result := by
  cases first with
  | error fault => simp [bind, Except.bind]
  | ok answer => simp [bind, Except.bind]

/-- A sequence of checks is refused by the first one that refuses. -/
theorem bind_eq_error {first : Except Fault α} {next : α → Except Fault β} {fault : Fault} :
    (first >>= next) = .error fault ↔
      first = .error fault ∨ ∃ answer, first = .ok answer ∧ next answer = .error fault := by
  cases first with
  | error fault => simp [bind, Except.bind]
  | ok answer => simp [bind, Except.bind]

/-- **All elements are accepted** if each of them is. -/
theorem mapM_eq_ok {ask : α → Except Fault β} {elements : List α} {answers : List β} :
    elements.mapM ask = .ok answers ↔
      List.Forall₂ (fun element answer => ask element = .ok answer) elements answers := by
  induction elements generalizing answers with
  | nil => cases answers <;> simp [pure, Except.pure]
  | cons element rest ih =>
    rw [List.mapM_cons, bind_eq_ok]
    constructor
    · rintro ⟨first, here, rest⟩
      obtain ⟨others, later, same⟩ := bind_eq_ok.mp rest
      cases same
      exact .cons here (ih.mp later)
    · rintro (_ | ⟨here, later⟩)
      exact ⟨_, here, bind_eq_ok.mpr ⟨_, ih.mpr later, rfl⟩⟩

theorem exists_mapM_eq_ok {ask : α → Except Fault β} {elements : List α}
    (accepted : ∀ element ∈ elements, ∃ answer, ask element = .ok answer) :
    ∃ answers, elements.mapM ask = .ok answers := by
  induction elements with
  | nil => exact ⟨[], rfl⟩
  | cons element rest ih =>
    obtain ⟨answer, here⟩ := accepted element List.mem_cons_self
    obtain ⟨others, later⟩ := ih fun other member => accepted other (List.mem_cons_of_mem _ member)
    exact ⟨answer :: others, mapM_eq_ok.mpr (.cons here (mapM_eq_ok.mp later))⟩

theorem exists_of_mapM_eq_ok {ask : α → Except Fault β} {elements : List α} {answers : List β}
    (accepted : elements.mapM ask = .ok answers) :
    ∀ element ∈ elements, ∃ answer, ask element = .ok answer := by
  have related := mapM_eq_ok.mp accepted
  clear accepted
  induction related with
  | nil => nofun
  | cons here _ ih => exact List.forall_mem_cons.mpr ⟨⟨_, here⟩, ih⟩

/-- **The first element that is refused** decides the fault. -/
theorem mapM_eq_error {ask : α → Except Fault β} {before after : List α} {element : α}
    {fault : Fault} (accepted : ∀ other ∈ before, ∃ answer, ask other = .ok answer)
    (refused : ask element = .error fault) :
    (before ++ element :: after).mapM ask = .error fault := by
  induction before with
  | nil =>
    rw [List.nil_append, List.mapM_cons, refused]
    rfl
  | cons other rest ih =>
    obtain ⟨answer, here⟩ := accepted other List.mem_cons_self
    rw [List.cons_append, List.mapM_cons, here,
      ih fun later member => accepted later (List.mem_cons_of_mem other member)]
    rfl

/-- **A refusal comes from the first element that is refused.** -/
theorem mapM_eq_error_iff {ask : α → Except Fault β} {elements : List α} {fault : Fault} :
    elements.mapM ask = .error fault ↔ ∃ before element after,
      elements = before ++ element :: after ∧
        (∀ other ∈ before, ∃ answer, ask other = .ok answer) ∧ ask element = .error fault := by
  constructor
  · intro refused
    induction elements with
    | nil => cases refused
    | cons element rest ih =>
      cases here : ask element with
      | error first =>
        rw [List.mapM_cons, here] at refused
        cases refused
        exact ⟨[], element, rest, rfl, nofun, here⟩
      | ok answer =>
        rw [List.mapM_cons, here] at refused
        have later : rest.mapM ask = .error fault := by
          cases others : rest.mapM ask with
          | error second =>
            rw [others] at refused
            cases refused
            rfl
          | ok answers =>
            rw [others] at refused
            cases refused
        obtain ⟨before, other, after, same, accepted, last⟩ := ih later
        refine ⟨element :: before, other, after, congrArg (element :: ·) same, ?_, last⟩
        exact List.forall_mem_cons.mpr ⟨⟨answer, here⟩, accepted⟩
  · rintro ⟨before, element, after, rfl, accepted, refused⟩
    exact mapM_eq_error accepted refused

/-- **What every step of a fold keeps** is kept by the fold. -/
theorem foldlM_keeps {step : α → β → Except Fault α} (holds : α → Prop)
    (kept : ∀ value item next, holds value → step value item = .ok next → holds next)
    {items : List β} {start left : α} (folded : items.foldlM step start = .ok left)
    (begins : holds start) : holds left := by
  induction items generalizing start with
  | nil =>
    cases folded
    exact begins
  | cons item rest ih =>
    rw [List.foldlM_cons] at folded
    obtain ⟨next, here, later⟩ := bind_eq_ok.mp folded
    exact ih later (kept start item next begins here)

/-- **A fold whose steps make one change each** makes all of them if it is accepted. -/
theorem foldlM_eq_foldl {step : α → β → Except Fault α} {change : α → β → α}
    (changes : ∀ value item next, step value item = .ok next → next = change value item)
    {items : List β} {start left : α} (folded : items.foldlM step start = .ok left) :
    left = items.foldl change start := by
  induction items generalizing start with
  | nil =>
    cases folded
    rfl
  | cons item rest ih =>
    rw [List.foldlM_cons] at folded
    obtain ⟨next, here, later⟩ := bind_eq_ok.mp folded
    rw [ih later, changes start item next here]
    rfl

@[simp] theorem apply_pure (answer : α) (value : σ) :
    (pure answer : Edit σ α).apply value = (.ok answer, value) := rfl

@[simp] theorem apply_bind (first : Edit σ α) (next : α → Edit σ β) (value : σ) :
    (first >>= next).apply value =
      match first.apply value with
      | (.ok answer, left) => (next answer).apply left
      | (.error fault, left) => (.error fault, left) := by
  show StateT.run (ExceptT.run (first >>= next)) value = _
  rcases ran : first.apply value with ⟨_ | _, left⟩
  all_goals
    simp only [apply] at ran
    simp only [ExceptT.run_bind, StateT.run_bind, ran]
    rfl

/-- **A sequence of edits is accepted step by step.** -/
theorem apply_bind_eq_ok {first : Edit σ α} {next : α → Edit σ β} {value left : σ} {result : β} :
    (first >>= next).apply value = (.ok result, left) ↔ ∃ answer between,
      first.apply value = (.ok answer, between) ∧
        (next answer).apply between = (.ok result, left) := by
  rw [apply_bind]
  rcases first.apply value with ⟨_ | _, _⟩ <;> simp

theorem apply_map (change : α → β) (edit : Edit σ α) (value : σ) :
    (change <$> edit).apply value = ((edit.apply value).1.map change, (edit.apply value).2) := by
  rw [← bind_pure_comp, apply_bind]
  rcases edit.apply value with ⟨_ | _, _⟩ <;> rfl

@[simp] theorem apply_get (value : σ) : (get : Edit σ σ).apply value = (.ok value, value) := rfl

@[simp] theorem apply_set (value next : σ) :
    (set next : Edit σ PUnit).apply value = (.ok (), next) := rfl

@[simp] theorem apply_modify (change : σ → σ) (value : σ) :
    (modify change : Edit σ PUnit).apply value = (.ok (), change value) := rfl

@[simp] theorem apply_throw (fault : Fault) (value : σ) :
    (throw fault : Edit σ α).apply value = (.error fault, value) := rfl

@[simp] theorem apply_lift (answer : Except Fault α) (value : σ) :
    (liftM answer : Edit σ α).apply value = (answer, value) := rfl

/-- **An edit on a copy succeeds exactly when the edit does**, and gives what it leaves behind. -/
theorem onCopy_eq_ok {edit : Edit σ α} {value left : σ} {answer : α} :
    edit.onCopy value = .ok (answer, left) ↔ edit.apply value = (.ok answer, left) := by
  unfold onCopy
  split <;> simp_all

/-! ### Edits that only ask -/

/-- The edit leaves every value as it is. -/
def Asks (edit : Edit σ α) : Prop := ∀ value, (edit.apply value).2 = value

theorem Asks.pure (answer : α) : (Pure.pure answer : Edit σ α).Asks := fun _ => rfl

theorem Asks.lift (answer : Except Fault α) : (liftM answer : Edit σ α).Asks := fun _ => rfl

theorem Asks.bind {first : Edit σ α} {next : α → Edit σ β} (asks : first.Asks)
    (others : ∀ answer, (next answer).Asks) : (first >>= next).Asks := by
  intro value
  have unmoved := asks value
  rw [apply_bind]
  rcases ran : first.apply value with ⟨_ | answer, left⟩
  · rw [ran] at unmoved
    exact unmoved
  · rw [ran] at unmoved
    exact (others answer left).trans unmoved

/-! ### Edits that leave nothing behind when they are refused -/

/-- A refusal leaves the value as it was before. -/
def Atomic (edit : Edit σ α) : Prop :=
  ∀ value fault, (edit.apply value).1 = .error fault → (edit.apply value).2 = value

/-- **The two ends of an edit of a value**: it is refused and leaves the value as it was, or it is
accepted and what it leaves is an outcome. -/
def Settles (edit : Edit σ α) (value : σ) (outcome : σ → Prop) : Prop :=
  (∃ fault, edit.apply value = (.error fault, value)) ∨
    ∃ answer next, edit.apply value = (.ok answer, next) ∧ outcome next

/-- The edit of a value ends in one assignment: if it is accepted it leaves `next`, and a fact holds
that it has checked. -/
abbrev Assigns (edit : Edit σ α) (value next : σ) (fact : Prop) : Prop :=
  edit.Settles value fun left => left = next ∧ fact

namespace Settles

variable {value : σ} {outcome : σ → Prop}

theorem lift {answer : Except Fault α} {rest : α → Edit σ β}
    (accepted : ∀ given, answer = .ok given → (rest given).Settles value outcome) :
    ((liftM answer : Edit σ α) >>= rest).Settles value outcome := by
  cases answer with
  | error fault => exact .inl ⟨fault, rfl⟩
  | ok given => exact accepted given rfl

theorem get {rest : σ → Edit σ β} (accepted : (rest value).Settles value outcome) :
    ((MonadState.get : Edit σ σ) >>= rest).Settles value outcome := accepted

theorem refuse {fault : Fault} : (MonadExcept.throw fault : Edit σ α).Settles value outcome :=
  .inl ⟨fault, rfl⟩

theorem throw {fault : Fault} {rest : α → Edit σ β} :
    ((MonadExcept.throw fault : Edit σ α) >>= rest).Settles value outcome := .inl ⟨fault, rfl⟩

theorem pure {answer : α} (holds : outcome value) :
    (Pure.pure answer : Edit σ α).Settles value outcome := .inr ⟨answer, value, rfl, holds⟩

theorem set {next : σ} (holds : outcome next) :
    (MonadStateOf.set next : Edit σ PUnit).Settles value outcome := .inr ⟨_, next, rfl, holds⟩

theorem set_pure {next : σ} {answer : α} (holds : outcome next) :
    ((MonadStateOf.set next : Edit σ PUnit) >>= fun _ => Pure.pure answer).Settles value outcome :=
  .inr ⟨answer, next, rfl, holds⟩

theorem modify {change : σ → σ} (holds : outcome (change value)) :
    (modifyThe σ change : Edit σ PUnit).Settles value outcome := .inr ⟨_, _, rfl, holds⟩

theorem of_asks {edit : Edit σ α} (asks : edit.Asks) (holds : outcome value) :
    edit.Settles value outcome := by
  have unmoved := asks value
  rcases ran : edit.apply value with ⟨fault | answer, left⟩ <;> rw [ran] at unmoved <;>
    cases unmoved
  · exact .inl ⟨fault, ran⟩
  · exact .inr ⟨answer, _, ran, holds⟩

/-- An outcome that the value itself is, too, is what the edit leaves behind. -/
theorem left {edit : Edit σ α} (settles : edit.Settles value outcome) (before : outcome value) :
    outcome (edit.apply value).2 := by
  rcases settles with ⟨_, refused⟩ | ⟨_, _, accepted, holds⟩
  · rw [refused]
    exact before
  · rw [accepted]
    exact holds

/-- An edit that is accepted leaves an outcome. -/
theorem of_accepted {edit : Edit σ α} {answer : α} {next : σ}
    (settles : edit.Settles value outcome) (accepted : edit.apply value = (.ok answer, next)) :
    outcome next := by
  rcases settles with ⟨_, refused⟩ | ⟨_, _, same, here⟩
  · rw [refused] at accepted
    cases accepted
  · rw [same] at accepted
    cases accepted
    exact here

theorem mono {edit : Edit σ α} {weaker : σ → Prop} (settles : edit.Settles value outcome)
    (follows : ∀ next, outcome next → weaker next) : edit.Settles value weaker := by
  refine settles.imp id fun accepted => ?_
  obtain ⟨answer, next, leaves, holds⟩ := accepted
  exact ⟨answer, next, leaves, follows next holds⟩

end Settles

/-- What holds of the value before an assignment, and of `next` by what was checked, holds of what
is left behind. -/
theorem Assigns.left {edit : Edit σ α} {value next : σ} {fact : Prop}
    (assigns : edit.Assigns value next fact) (holds : σ → Prop) (before : holds value)
    (after : fact → holds next) : holds (edit.apply value).2 := by
  refine Settles.left (assigns.mono fun left outcome => ?_) before
  obtain ⟨rfl, checked⟩ := outcome
  exact after checked

/-- An edit that settles whatever the value is leaves nothing behind when it is refused. -/
theorem Atomic.of_settles {edit : Edit σ α} {outcome : σ → σ → Prop}
    (settles : ∀ value, edit.Settles value (outcome value)) : edit.Atomic := by
  intro value fault refused
  rcases settles value with ⟨_, left⟩ | ⟨_, _, accepted, _⟩
  · rw [left]
  · rw [accepted] at refused
    cases refused

/-! ### Chains of moves -/

section Chains

variable {moves : Edit σ Unit → Prop}

/-- One admitted move, whether it is refused or not. -/
def Move (moves : Edit σ Unit → Prop) (before after : σ) : Prop :=
  ∃ edit, moves edit ∧ after = (edit.apply before).2

/-- A chain of admitted moves, any of which may be refused. -/
def Leads (moves : Edit σ Unit → Prop) : σ → σ → Prop := Relation.ReflTransGen (Move moves)

theorem Leads.refl (value : σ) : Leads moves value value := Relation.ReflTransGen.refl

theorem Leads.trans {first second third : σ} (one : Leads moves first second)
    (two : Leads moves second third) : Leads moves first third :=
  Relation.ReflTransGen.trans one two

theorem Leads.single {edit : Edit σ Unit} (admitted : moves edit) (value : σ) :
    Leads moves value (edit.apply value).2 :=
  Relation.ReflTransGen.single ⟨edit, admitted, rfl⟩

theorem Leads.mono {more : Edit σ Unit → Prop} (weaker : ∀ edit, moves edit → more edit)
    {before after : σ} (leads : Leads moves before after) : Leads more before after := by
  refine Relation.ReflTransGen.mono (fun first second move => ?_) _ _ leads
  obtain ⟨edit, admitted, same⟩ := move
  exact ⟨edit, weaker edit admitted, same⟩

/-- **What every move keeps is kept along a chain.** -/
theorem Leads.keeps (holds : σ → Prop)
    (kept : ∀ edit, moves edit → ∀ value, holds value → holds (edit.apply value).2)
    {before after : σ} (leads : Leads moves before after) (start : holds before) : holds after := by
  induction leads with
  | refl => exact start
  | tail _ move ih =>
    obtain ⟨edit, admitted, rfl⟩ := move
    exact kept edit admitted _ ih

/-- The value after some edits in a row, refused ones included. -/
def run (edits : List (Edit σ Unit)) (value : σ) : σ :=
  edits.foldl (fun value edit => (edit.apply value).2) value

/-- Admitted moves in a row are a chain. -/
theorem Leads.run {edits : List (Edit σ Unit)} (each : ∀ edit ∈ edits, moves edit) (value : σ) :
    Leads moves value (Edit.run edits value) := by
  induction edits generalizing value with
  | nil => exact .refl value
  | cons edit rest ih =>
    have later := ih (fun other member => each other (List.mem_cons_of_mem edit member))
      (edit.apply value).2
    exact (Leads.single (each edit List.mem_cons_self) value).trans later

/-- The edit changes its value by admitted moves only, and leaves it where they lead. -/
def Through (moves : Edit σ Unit → Prop) (edit : Edit σ α) : Prop :=
  ∀ value, Leads moves value (edit.apply value).2

/-- An edit that changes its value by admitted moves only. It may look at the value, be refused
anywhere, and go on after the refusal of a move. -/
structure Change (moves : Edit σ Unit → Prop) where
  edit : Edit σ Unit
  through : edit.Through moves

namespace Through

theorem of_move {edit : Edit σ Unit} (admitted : moves edit) : edit.Through moves :=
  Leads.single admitted

/-- An edit that was run has led by its moves to what it left, whatever it answered. -/
theorem leads {edit : Edit σ α} {answer : Except Fault α} {before after : σ}
    (through : edit.Through moves) (ran : edit.apply before = (answer, after)) :
    Leads moves before after := by
  have leads := through before
  rwa [ran] at leads

theorem of_asks {edit : Edit σ α} (asks : edit.Asks) : edit.Through moves := by
  intro value
  rw [asks value]
  exact Leads.refl value

theorem bind {first : Edit σ α} {next : α → Edit σ β} (one : first.Through moves)
    (two : ∀ answer, (next answer).Through moves) : (first >>= next).Through moves := by
  intro value
  have begun := one value
  rw [apply_bind]
  rcases ran : first.apply value with ⟨_ | answer, left⟩
  · rwa [ran] at begun
  · rw [ran] at begun
    exact begun.trans (two answer left)

/-- Reading a part of a definition and then moving is moving with what was read. -/
theorem read_bind {answer : Except Fault α} {next : α → Edit σ β}
    (two : ∀ given, answer = .ok given → (next given).Through moves) :
    ((liftM answer : Edit σ α) >>= next).Through moves := by
  cases answer with
  | ok given => exact two given rfl
  | error fault => exact fun value => Leads.refl value

theorem lift_bind (answer : Except Fault α) {next : α → Edit σ β}
    (two : ∀ answer, (next answer).Through moves) :
    ((liftM answer : Edit σ α) >>= next).Through moves :=
  read_bind fun given _ => two given

theorem forM_list {visit : α → Edit σ PUnit} (each : ∀ item, (visit item).Through moves)
    (items : List α) : (items.forM visit).Through moves := by
  induction items with
  | nil => exact of_asks (Asks.pure _)
  | cons item rest ih => exact bind (each item) fun _ => ih

theorem forM_option {visit : α → Edit σ PUnit} (each : ∀ item, (visit item).Through moves)
    (item : Option α) : (item.forM visit).Through moves := by
  cases item with
  | none => exact of_asks (Asks.pure _)
  | some item => exact each item

end Through

/-- A chain of moves that go through other moves is a chain of those. -/
theorem Leads.through {more : Edit σ Unit → Prop} (each : ∀ edit, moves edit → edit.Through more)
    {before after : σ} (leads : Leads moves before after) : Leads more before after := by
  induction leads with
  | refl => exact .refl before
  | tail _ move ih =>
    obtain ⟨edit, admitted, rfl⟩ := move
    exact ih.trans (each edit admitted _)

/-- **What every move leaves alone stays as it is along a chain.** -/
theorem Leads.keeps_view (view : σ → α)
    (kept : ∀ edit, moves edit → ∀ value, view (edit.apply value).2 = view value)
    {before after : σ} (leads : Leads moves before after) : view after = view before :=
  leads.keeps (fun value => view value = view before)
    (fun edit admitted value same => (kept edit admitted value).trans same) rfl

/-! ### Values that are created and then changed by moves -/

/-- The value was created under some name and then changed by admitted moves. -/
def Made (create : String → Except Fault σ) (moves : Edit σ Unit → Prop) (value : σ) : Prop :=
  ∃ name start, create name = .ok start ∧ Leads moves start value

theorem Made.leads {create : String → Except Fault σ} {before after : σ}
    (made : Made create moves before) (leads : Leads moves before after) :
    Made create moves after := by
  obtain ⟨name, start, created, first⟩ := made
  exact ⟨name, start, created, first.trans leads⟩

/-- What a second way of creation makes is where moves lead from the first one, and so is whatever
moves make of that. -/
theorem Made.of_made {create other : String → Except Fault σ} {value : σ}
    (begun : ∀ name start, other name = .ok start → Made create moves start)
    (made : Made other moves value) : Made create moves value := by
  obtain ⟨name, start, created, leads⟩ := made
  exact (begun name start created).leads leads

/-- **A value that is created and edited on a copy** is where the edits lead from its creation. -/
theorem Through.of_created {create : String → Except Fault σ} {edit : Edit σ Unit} {name : String}
    {value : σ} (through : edit.Through moves)
    (edited : (do
      let start ← create name
      let (_, built) ← edit.onCopy start
      return built) = .ok value) :
    ∃ start, create name = .ok start ∧ Leads moves start value := by
  obtain ⟨start, created, edited⟩ := bind_eq_ok.mp edited
  obtain ⟨⟨answer, left⟩, applied, same⟩ := bind_eq_ok.mp edited
  cases same
  exact ⟨start, created, through.leads (onCopy_eq_ok.mp applied)⟩

end Chains

end ContainerStack.Edit
