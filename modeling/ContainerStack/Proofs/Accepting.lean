import ContainerStack.Proofs.Steps

/-!
**Which edits are accepted, and when their order does not matter.**

* `Edit.Accepts`, `Edit.Refuses`: the edit is accepted and leaves a given value, or it is refused
  with a given fault. The rules that follow say when this is so for an edit that is put together of
  others.
* `Edit.Arrives`: edits for the items of a list come to one of them. `refuses_forM`: they are
  refused exactly where the edit of an item to which they come is refused.
* `Edit.Guarded`: the edit is accepted exactly where a guard holds, and then makes one change.
  `Guarded.left`: what such an edit leaves behind, refused or not.
* `Edit.Commutes`: two edits are accepted together and leave the same, whichever comes first.
  `Guarded.commutes`: this holds if neither changes what the other one looks at.
-/

namespace ContainerStack.Edit

variable {σ α ι : Type}

/-! ### Accepted edits -/

/-- The edit is accepted and leaves a value. -/
def Accepts (edit : Edit σ Unit) (before after : σ) : Prop := edit.apply before = (.ok (), after)

section Rules

variable {before after : σ}

theorem accepts_bind {first : Edit σ Unit} {next : Unit → Edit σ Unit} :
    (first >>= next).Accepts before after ↔
      ∃ between, first.Accepts before between ∧ (next ()).Accepts between after := by
  unfold Accepts
  rw [apply_bind]
  rcases first.apply before with ⟨_ | _, left⟩ <;> simp

/-- An edit in two parts is refused by the first one, or by the second one where the first one
has led. -/
theorem refused_bind {first : Edit σ Unit} {next : Unit → Edit σ Unit} {fault : Fault} :
    (∃ left, (first >>= next).apply before = (.error fault, left)) ↔
      (∃ left, first.apply before = (.error fault, left)) ∨
        ∃ between, first.Accepts before between ∧
          ∃ left, (next ()).apply between = (.error fault, left) := by
  unfold Accepts
  rw [apply_bind]
  rcases first.apply before with ⟨_ | _, between⟩ <;> simp

/-- The edit is refused with a fault. -/
def Refuses (edit : Edit σ Unit) (before : σ) (fault : Fault) : Prop :=
  ∃ left, edit.apply before = (.error fault, left)

theorem refuses_bind {first : Edit σ Unit} {next : Unit → Edit σ Unit} {fault : Fault} :
    (first >>= next).Refuses before fault ↔
      first.Refuses before fault ∨
        ∃ between, first.Accepts before between ∧ (next ()).Refuses between fault := refused_bind

theorem onCopy_eq_error {edit : Edit σ Unit} {fault : Fault} :
    edit.onCopy before = .error fault ↔ edit.Refuses before fault := by
  unfold onCopy Refuses
  rcases edit.apply before with ⟨_ | _, left⟩ <;> simp

theorem refuses_lift_bind {answer : Except Fault α} {next : α → Edit σ Unit} {fault : Fault} :
    ((liftM answer : Edit σ α) >>= next).Refuses before fault ↔
      answer = .error fault ∨ ∃ given, answer = .ok given ∧ (next given).Refuses before fault := by
  unfold Refuses
  rw [apply_bind, apply_lift]
  cases answer <;> simp

@[simp] theorem not_refuses_pure {fault : Fault} :
    ¬ (pure () : Edit σ Unit).Refuses before fault := by
  simp [Refuses]

theorem accepts_lift_bind {answer : Except Fault α} {next : α → Edit σ Unit} :
    ((liftM answer : Edit σ α) >>= next).Accepts before after ↔
      ∃ given, answer = .ok given ∧ (next given).Accepts before after := by
  unfold Accepts
  rw [apply_bind, apply_lift]
  cases answer <;> simp

/-- A check comes first: it has to be passed. -/
@[simp] theorem accepts_check_bind {check : Except Fault Unit} {next : Unit → Edit σ Unit} :
    ((liftM check : Edit σ Unit) >>= next).Accepts before after ↔
      check = .ok () ∧ (next ()).Accepts before after :=
  accepts_lift_bind.trans ⟨fun ⟨_, passed⟩ => passed, fun passed => ⟨(), passed⟩⟩

@[simp] theorem accepts_get_bind {next : σ → Edit σ Unit} :
    ((get : Edit σ σ) >>= next).Accepts before after ↔ (next before).Accepts before after := .rfl

@[simp] theorem accepts_set {given : σ} :
    (set given : Edit σ Unit).Accepts before after ↔ after = given := by
  simp [Accepts, eq_comm]

@[simp] theorem accepts_modify {change : σ → σ} :
    (modify change : Edit σ Unit).Accepts before after ↔ after = change before := by
  simp [Accepts, eq_comm]

@[simp] theorem accepts_pure : (pure () : Edit σ Unit).Accepts before after ↔ after = before := by
  simp [Accepts, eq_comm]

@[simp] theorem accepts_throw {fault : Fault} :
    ¬ (throw fault : Edit σ Unit).Accepts before after := by
  simp [Accepts]

@[simp] theorem accepts_throw_bind {fault : Fault} {next : α → Edit σ Unit} :
    ¬ ((throw fault : Edit σ α) >>= next).Accepts before after := by
  simp [Accepts]

/-- An edit that is refused without a trace settles in what it leaves where it is accepted. -/
theorem Settles.of_accepts {edit : Edit σ Unit} {outcome : σ → Prop} (atomic : edit.Atomic)
    (accepted : ∀ next, edit.Accepts before next → outcome next) :
    edit.Settles before outcome := by
  have unmoved := atomic before
  rcases ran : edit.apply before with ⟨fault | answer, left⟩
  · rw [ran] at unmoved
    cases unmoved fault rfl
    exact .inl ⟨fault, ran⟩
  · exact .inr ⟨answer, left, ran, accepted left ran⟩

end Rules

/-! ### Edits for every item of a list -/

theorem forM_cons (visit : ι → Edit σ Unit) (item : ι) (rest : List ι) :
    (item :: rest).forM visit = (visit item >>= fun _ => rest.forM visit) := rfl

theorem forM_append (visit : ι → Edit σ Unit) (first second : List ι) :
    (first ++ second).forM visit = (first.forM visit >>= fun _ => second.forM visit) :=
  List.forM_append

theorem forM_map (visit : ι → Edit σ Unit) (place : α → ι) (items : List α) :
    (items.map place).forM visit = items.forM fun item => visit (place item) := by
  induction items with
  | nil => rfl
  | cons item rest ih => rw [List.map_cons, forM_cons, forM_cons, ih]

theorem forM_congr {first second : ι → Edit σ Unit} {items : List ι}
    (same : ∀ item ∈ items, first item = second item) : items.forM first = items.forM second := by
  induction items with
  | nil => rfl
  | cons item rest ih =>
    rw [forM_cons, forM_cons, same item List.mem_cons_self,
      ih fun other member => same other (List.mem_cons_of_mem item member)]

theorem accepts_forM_cons {visit : ι → Edit σ Unit} {item : ι} {rest : List ι} {before after : σ} :
    ((item :: rest).forM visit).Accepts before after ↔
      ∃ between, (visit item).Accepts before between ∧ (rest.forM visit).Accepts between after := by
  rw [forM_cons]
  exact accepts_bind

/-- What every single edit keeps is kept by all of them. -/
theorem Accepts.forM_keeps {visit : ι → Edit σ Unit} {holds : σ → Prop}
    (each : ∀ item before after, (visit item).Accepts before after → holds before → holds after)
    {items : List ι} {before after : σ} (accepted : (items.forM visit).Accepts before after)
    (start : holds before) : holds after := by
  induction items generalizing before with
  | nil => exact (accepts_pure.mp accepted) ▸ start
  | cons item rest ih =>
    obtain ⟨between, first, later⟩ := accepts_forM_cons.mp accepted
    exact ih later (each item before between first start)

/-- All edits are accepted only if every single one is, wherever it starts. -/
theorem Accepts.of_forM {visit : ι → Edit σ Unit} {items : List ι} {before after : σ}
    (accepted : (items.forM visit).Accepts before after) {item : ι} (member : item ∈ items) :
    ∃ start left, (visit item).Accepts start left := by
  induction items generalizing before with
  | nil => cases member
  | cons first rest ih =>
    obtain ⟨between, here, later⟩ := accepts_forM_cons.mp accepted
    rcases List.mem_cons.mp member with rfl | member
    · exact ⟨before, between, here⟩
    · exact ih later member

/-- Edits for the items of a list come to one of them: those for all items before it were
accepted. -/
def Arrives (visit : ι → Edit σ Unit) (items : List ι) (start : σ) (item : ι) (here : σ) : Prop :=
  ∃ earlier later, items = earlier ++ item :: later ∧ (earlier.forM visit).Accepts start here

section Arriving

variable {visit : ι → Edit σ Unit} {items : List ι} {start here : σ} {item : ι}

theorem Arrives.mem (arrives : Arrives visit items start item here) : item ∈ items := by
  obtain ⟨earlier, later, rfl, _⟩ := arrives
  exact List.mem_append_right earlier List.mem_cons_self

theorem arrives_cons {first : ι} {rest : List ι} :
    Arrives visit (first :: rest) start item here ↔ (item = first ∧ here = start) ∨
      ∃ between, (visit first).Accepts start between ∧ Arrives visit rest between item here := by
  constructor
  · rintro ⟨earlier, later, same, accepted⟩
    obtain ⟨rfl, same⟩ | ⟨between, rfl, rfl⟩ := List.cons_eq_append_iff.mp same
    · cases same
      exact .inl ⟨rfl, accepts_pure.mp accepted⟩
    · obtain ⟨next, one, others⟩ := accepts_forM_cons.mp accepted
      exact .inr ⟨next, one, between, later, rfl, others⟩
  · rintro (⟨rfl, rfl⟩ | ⟨next, one, earlier, later, rfl, others⟩)
    · exact ⟨[], rest, rfl, accepts_pure.mpr rfl⟩
    · exact ⟨first :: earlier, later, rfl, accepts_forM_cons.mpr ⟨next, one, others⟩⟩

/-- **Edits for the items of a list are refused exactly where they come to an item whose edit is
refused.** -/
theorem refuses_forM {fault : Fault} : (items.forM visit).Refuses start fault ↔
    ∃ item here, Arrives visit items start item here ∧ (visit item).Refuses here fault := by
  induction items generalizing start with
  | nil =>
    refine ⟨fun refused => absurd refused not_refuses_pure, ?_⟩
    rintro ⟨_, _, arrives, _⟩
    cases arrives.mem
  | cons first rest ih =>
    rw [forM_cons, refuses_bind]
    simp only [ih, arrives_cons]
    constructor
    · rintro (refused | ⟨between, one, item, here, arrives, refused⟩)
      · exact ⟨first, start, .inl ⟨rfl, rfl⟩, refused⟩
      · exact ⟨item, here, .inr ⟨between, one, arrives⟩, refused⟩
    · rintro ⟨item, here, ⟨rfl, rfl⟩ | ⟨between, one, arrives⟩, refused⟩
      · exact .inl refused
      · exact .inr ⟨between, one, item, here, arrives, refused⟩

end Arriving

/-! ### Edits whose order does not matter -/

/-- Whichever of the two edits comes first, both are accepted or not, and leave the same. -/
def Commutes (first second : Edit σ Unit) : Prop :=
  Relation.Comp first.Accepts second.Accepts = Relation.Comp second.Accepts first.Accepts

theorem accepts_seq (first second : Edit σ Unit) :
    (first >>= fun _ => second).Accepts = Relation.Comp first.Accepts second.Accepts := by
  funext before after
  exact propext accepts_bind

theorem accepts_done : (pure () : Edit σ Unit).Accepts = Eq := by
  funext before after
  exact propext (accepts_pure.trans eq_comm)

namespace Commutes

variable {edit first second : Edit σ Unit}

theorem symm (commutes : first.Commutes second) : second.Commutes first := Eq.symm commutes

/-- Two edits that commute change places in front of whatever follows. -/
theorem left_comm (commutes : first.Commutes second) (rest : σ → σ → Prop) :
    Relation.Comp first.Accepts (Relation.Comp second.Accepts rest) =
      Relation.Comp second.Accepts (Relation.Comp first.Accepts rest) := by
  rw [← Relation.comp_assoc, commutes, Relation.comp_assoc]

theorem pure : edit.Commutes (Pure.pure ()) := by
  unfold Commutes
  rw [accepts_done, Relation.comp_eq, Relation.eq_comp]

theorem bind (one : edit.Commutes first) (two : edit.Commutes second) :
    edit.Commutes (first >>= fun _ => second) := by
  unfold Commutes at one two ⊢
  rw [accepts_seq, ← Relation.comp_assoc, one, Relation.comp_assoc, two, Relation.comp_assoc]

/-- Reading a part of a definition first makes no difference. -/
theorem lift_bind {answer : Except Fault α} {next : α → Edit σ Unit}
    (each : ∀ given, edit.Commutes (next given)) :
    edit.Commutes ((liftM answer : Edit σ α) >>= next) := by
  cases answer with
  | ok given => exact each given
  | error fault =>
    have refused : ((liftM (Except.error fault : Except Fault α) : Edit σ α) >>= next).Accepts =
        fun _ _ => False := by
      funext before after
      exact propext (accepts_lift_bind.trans (by simp))
    unfold Commutes
    rw [refused]
    funext before after
    simp [Relation.Comp]

theorem forM_list {visit : ι → Edit σ Unit} (each : ∀ item, edit.Commutes (visit item))
    (items : List ι) : edit.Commutes (items.forM visit) := by
  induction items with
  | nil => exact pure
  | cons item rest ih => exact bind (each item) ih

theorem forM_option {visit : ι → Edit σ Unit} (each : ∀ item, edit.Commutes (visit item))
    (item : Option ι) : edit.Commutes (item.forM visit) := by
  cases item with
  | none => exact pure
  | some item => exact each item

end Commutes

/-- The edit is accepted exactly where a guard holds, and then makes one change. -/
def Guarded (edit : Edit σ Unit) (guard : σ → Prop) (change : σ → σ) : Prop :=
  ∀ before after, edit.Accepts before after ↔ guard before ∧ after = change before

/-- **What holds before, and after the change where the guard holds**, holds of what is left
behind. -/
theorem Guarded.left {edit : Edit σ Unit} {guard : σ → Prop} {change : σ → σ}
    (guarded : edit.Guarded guard change) (atomic : edit.Atomic) {holds : σ → Prop} {value : σ}
    (before : holds value) (after : guard value → holds (change value)) :
    holds (edit.apply value).2 := by
  refine (Settles.of_accepts atomic fun next accepted => ?_).left before
  obtain ⟨held, rfl⟩ := (guarded value next).mp accepted
  exact after held

/-- **Two edits commute** if neither changes what the guard of the other one looks at, and their
changes commute. -/
theorem Guarded.commutes {first second : Edit σ Unit} {guard other : σ → Prop}
    {change alter : σ → σ} (one : first.Guarded guard change) (two : second.Guarded other alter)
    (guardKept : ∀ value, guard (alter value) ↔ guard value)
    (otherKept : ∀ value, other (change value) ↔ other value)
    (same : ∀ value, alter (change value) = change (alter value)) : first.Commutes second := by
  funext before after
  simp only [Relation.Comp, one _ _, two _ _, eq_iff_iff]
  constructor
  · rintro ⟨_, ⟨held, rfl⟩, admitted, rfl⟩
    exact ⟨_, ⟨(otherKept before).mp admitted, rfl⟩, (guardKept before).mpr held, same before⟩
  · rintro ⟨_, ⟨admitted, rfl⟩, held, rfl⟩
    exact ⟨_, ⟨(guardKept before).mp held, rfl⟩, (otherKept before).mpr admitted,
      (same before).symm⟩

end ContainerStack.Edit
