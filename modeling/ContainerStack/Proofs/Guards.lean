import ContainerStack.Manifest

/-!
**Every guard agrees with what it guards.**

A block is written only if there is something to write in it. Some guards look at the body itself,
others at the value that the body is made of, or at a part of it that is shown.

* `Step.itemsBlock_eq_nil`, `Step.scalarIfSome_eq_nil`, …: when a helper writes nothing.
* `Manifest.amountBody_eq_nil`, `Manifest.deployBody_eq_nil`, …: the guards that look at the value.
-/

namespace ContainerStack

namespace Yaml.Step

variable {key : String}

@[simp] theorem itemsBlock_eq_nil {items : List String} :
    itemsBlock key items = [] ↔ items = [] := by
  cases items <;> simp [itemsBlock]

@[simp] theorem mapBlock_eq_nil {entries : List (String × String)} :
    mapBlock key entries = [] ↔ entries = [] := by
  cases entries <;> simp [mapBlock]

@[simp] theorem blockUnlessEmpty_eq_nil {body : List Step} :
    blockUnlessEmpty key body = [] ↔ body = [] := by
  cases body <;> simp [blockUnlessEmpty]

@[simp] theorem blockIfSome_eq_nil {α : Type} {body : α → List Step} {value : Option α} :
    blockIfSome key body value = [] ↔ value = none := by
  cases value <;> simp [blockIfSome]

@[simp] theorem scalarIfSome_eq_nil {value : Option String} :
    scalarIfSome key value = [] ↔ value = none := by
  cases value <;> simp [scalarIfSome]

@[simp] theorem quotedIfSome_eq_nil {value : Option String} :
    quotedIfSome key value = [] ↔ value = none := by
  cases value <;> simp [quotedIfSome]

@[simp] theorem rawIfSome_eq_nil {value : Option String} :
    rawIfSome key value = [] ↔ value = none := by
  cases value <;> simp [rawIfSome]

/-- **A guard that looks at the value** leaves out what a guard that looks at the body does. -/
theorem blockIfSome_guarded {α : Type} {body : α → List Step} {isEmpty : α → Bool}
    (agrees : ∀ {value}, body value = [] ↔ isEmpty value = true) (value : α) :
    blockIfSome key body ((some value).filter fun given => !isEmpty given) =
      blockUnlessEmpty key (body value) := by
  rw [Option.filter_some]
  cases empty : isEmpty value with
  | true =>
    rw [agrees.mpr empty]
    rfl
  | false =>
    have full : (body value).isEmpty = false := by
      rw [List.isEmpty_eq_false_iff]
      exact fun nothing => by simp [agrees.mp nothing] at empty
    rw [blockUnlessEmpty, full]
    rfl

end Yaml.Step

theorem OrderedMap.toList_eq_nil {α : Type} {entries : OrderedMap α} :
    entries.toList = [] ↔ entries.isEmpty = true := List.isEmpty_iff.symm

namespace Manifest

open Yaml (Step)

theorem amountBody_eq_nil {amounts : Amounts} :
    amountBody amounts = [] ↔ amounts.isEmpty = true := by
  simp [amountBody, Amounts.isEmpty]

theorem amountSteps_eq_nil {key : String} {amounts : Option Amounts} :
    amountSteps key amounts = [] ↔ amounts.all Amounts.isEmpty = true := by
  cases amounts <;> simp [amountSteps]

/-- **Resources show nothing exactly if no amount is given.** -/
theorem resourceBody_eq_nil {resources : Resources} :
    resourceBody resources = [] ↔ resources.isEmpty = true := by
  rw [resourceBody, List.append_eq_nil_iff, amountSteps_eq_nil, amountSteps_eq_nil,
    Resources.isEmpty, Bool.and_eq_true]

theorem taskRestartBody_eq_nil {policy : TaskRestart} :
    taskRestartBody policy = [] ↔ policy.isEmpty = true := by
  simp [taskRestartBody, TaskRestart.isEmpty, and_assoc]

@[simp] theorem placementSteps_eq_nil {constraints : List String} :
    placementSteps constraints = [] ↔ constraints = [] := by
  cases constraints <;> simp [placementSteps]

/-- **A deployment shows nothing exactly if it sets nothing** that is shown. -/
theorem deployBody_eq_nil {deploy : Deployment} :
    deployBody deploy = [] ↔ deploy.isEmpty = true := by
  simp [deployBody, resourceSteps, taskRestartSteps, Deployment.isEmpty,
    OrderedMap.toList_eq_nil, and_assoc]

theorem externalSteps_ne_nil (external : External) : externalSteps external ≠ [] := by
  cases external <;> simp [externalSteps]

@[simp] theorem storageSteps_eq_nil {storage : Option VolumeStorage} :
    storageSteps storage = [] ↔ storage = none := by
  cases storage <;> simp [storageSteps]

theorem ipamBody_eq_nil {ipam : Ipam} : ipamBody ipam = [] ↔ ipam.isEmpty = true := by
  simp [ipamBody, Ipam.isEmpty]

/-- **A volume shows nothing exactly if it sets nothing** that is shown. -/
theorem volumeBody_eq_nil {volume : Volume} : volumeBody volume = [] ↔
    (volume.shownExternal.isNone && volume.shownStorage.isNone && volume.labels.isEmpty) =
      true := by
  unfold volumeBody
  cases volume.shownExternal with
  | none => simp [OrderedMap.toList_eq_nil]
  | some external => simp [externalSteps_ne_nil]

end Manifest

end ContainerStack
