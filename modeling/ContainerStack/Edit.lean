import ContainerStack.Fault

/-!
**Edits: changes of a value that can be refused.**

An `Edit σ α` changes a value of type `σ` and gives an `α` or a fault. The value it leaves behind is
part of its result in both cases: an assignment made before a refusal stays visible, so that "a
refused edit changes nothing" is a statement about the edit and not a convention.

* `Edit.apply`: the answer and the value left behind.
* `Edit.within`: an edit whose value is restored by a closing step, however it ended.
* `Edit.onCopy`: an edit that is committed only if it succeeds.
-/

namespace ContainerStack

/-- A change of a `σ` that gives an `α` or is refused; what it changed before stays changed. -/
abbrev Edit (σ α : Type) := ExceptT Fault (StateM σ) α

namespace Edit

variable {σ α : Type}

/-- The answer of an edit and the value it leaves behind. -/
def apply (edit : Edit σ α) (value : σ) : Except Fault α × σ :=
  StateT.run (ExceptT.run edit) value

/-- The edit with a given answer and value left behind. -/
def ofApply (run : σ → Except Fault α × σ) : Edit σ α :=
  ExceptT.mk (StateT.mk run)

/-- Runs an edit and then the closing step, whether the edit was refused or not. -/
def within (edit : Edit σ α) (close : σ → σ) : Edit σ α :=
  ofApply fun value =>
    let (answer, left) := edit.apply value
    (answer, close left)

/-- Runs an edit on a copy and gives the copy with the answer, or the refusal alone. -/
def onCopy (edit : Edit σ α) (value : σ) : Except Fault (α × σ) :=
  match edit.apply value with
  | (.ok answer, left) => .ok (answer, left)
  | (.error fault, _) => .error fault

@[simp] theorem apply_ofApply (run : σ → Except Fault α × σ) : (ofApply run).apply = run := rfl

@[simp] theorem apply_within (edit : Edit σ α) (close : σ → σ) (value : σ) :
    (edit.within close).apply value = ((edit.apply value).1, close (edit.apply value).2) := rfl

end Edit

end ContainerStack
