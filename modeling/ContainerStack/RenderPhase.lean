import ContainerStack.Edit

/-!
**Render phases.**

A value that can be rendered is idle or is being rendered. A rendering starts from an idle value
only and leaves it idle, whether it ended well or not; a rendering that cannot start changes
nothing.

* `RenderPhase.guarded`: a rendering of a value that holds a phase.
* `RenderSession`: a phase with the number of renderings that were started and not ended.
-/

namespace ContainerStack

/-- Whether a value is being rendered. -/
inductive RenderPhase where
  | idle
  | rendering
  deriving DecidableEq, Repr

namespace RenderPhase

/-- The word for a phase. -/
def word : RenderPhase → String
  | idle => "idle"
  | rendering => "rendering"

/-- Runs a rendering between entering and leaving the phase, which has to be idle before. -/
def guarded {σ α : Type} (phaseOf : σ → RenderPhase) (setPhase : RenderPhase → σ → σ)
    (target : String) (body : Edit σ α) : Edit σ α := do
  let value ← get
  if phaseOf value = rendering then
    throw (.obstructed (.alreadyRendering target))
  set (setPhase rendering value)
  body.within (setPhase idle)

end RenderPhase

/-- A phase with the number of renderings that were started and not ended. -/
structure RenderSession where
  phase : RenderPhase
  guards : Nat
  deriving DecidableEq, Repr

namespace RenderSession

/-- The session in which nothing was started. -/
def start : RenderSession := ⟨.idle, 0⟩

/-- Starts a rendering of a target. -/
def begin (target : String) : Edit RenderSession Unit := do
  let session ← get
  if session.phase = .rendering then
    throw (.obstructed (.alreadyRendering target))
  set (⟨.rendering, session.guards + 1⟩ : RenderSession)

/-- Ends the rendering that was started last, if there is one. -/
def finish (session : RenderSession) : RenderSession :=
  match session.guards with
  | 0 => session
  | guards + 1 => ⟨.idle, guards⟩

/-- A copy, in which nothing was started. -/
def copy (_session : RenderSession) : RenderSession := start

end RenderSession

end ContainerStack
