import ContainerStack.Manifest
import ContainerStack.Proofs.Steps

/-!
**Health checks that are turned off.**

A definition that turns off the check of the image carries nothing else. A check that is turned off
on its own can still be given settings, one by one; they are kept, and the manifest does not show
them.

* `Healthcheck.Setting`: the settings that are given one by one. `set_eq_ok`: what one of them
  changes; `after_eq`: what all of them do.
* `Healthcheck.ofSpec_eq`: a definition is its command and then its settings, one by one.
* `Healthcheck.Begun`: the ways to begin a check; `Begun.cases`: it runs a command or it is turned
  off, and nothing else. `after_cases`: what settings leave of it.
* `Healthcheck.disabled_carries`: what a check that is turned off carries, by the settings it was
  given.
-/

namespace ContainerStack

namespace Healthcheck

/-! ### Settings, one by one -/

/-- A setting that a check is given. -/
inductive Setting where
  | interval (duration : String)
  | timeout (duration : String)
  | startPeriod (duration : String)
  | retries (number : Nat)

/-- What the call of a setter makes of a check, if the value is accepted. -/
def Setting.set (check : Healthcheck) : Setting → Except Fault Healthcheck
  | .interval duration => check.withInterval duration
  | .timeout duration => check.withTimeout duration
  | .startPeriod duration => check.withStartPeriod duration
  | .retries number => check.withRetries number

/-- The change that an accepted setting makes. -/
def Setting.change (check : Healthcheck) : Setting → Healthcheck
  | .interval duration => { check with interval := some duration }
  | .timeout duration => { check with timeout := some duration }
  | .startPeriod duration => { check with startPeriod := some duration }
  | .retries number => { check with retries := some number }

/-- A check after some settings, up to the first that is refused. -/
def after (check : Healthcheck) (settings : List Setting) : Except Fault Healthcheck :=
  settings.foldlM Setting.set check

/-- The settings of a definition, in the order in which they are made. -/
def Spec.settings (spec : Spec) : List Setting :=
  (spec.interval.map .interval).toList ++ (spec.timeout.map .timeout).toList ++
    (spec.startPeriod.map .startPeriod).toList ++ (spec.retries.map .retries).toList

/-- The check carries no setting beside the switch. -/
structure Bare (check : Healthcheck) : Prop where
  test : check.test = none
  interval : check.interval = none
  timeout : check.timeout = none
  startPeriod : check.startPeriod = none
  retries : check.retries = none

variable {start check next : Healthcheck} {settings : List Setting}

theorem set_eq_ok (check : Healthcheck) (setting : Setting) (next : Healthcheck)
    (accepted : setting.set check = .ok next) : next = setting.change check := by
  cases setting with
  | _ =>
    obtain ⟨_, _, same⟩ := Edit.bind_eq_ok.mp accepted
    cases same
    rfl

/-- **Settings that are accepted make all their changes.** -/
theorem after_eq (made : start.after settings = .ok check) :
    check = settings.foldl Setting.change start :=
  Edit.foldlM_eq_foldl set_eq_ok made

/-- A setting changes neither the command nor the switch. -/
theorem Setting.change_kept (setting : Setting) (check : Healthcheck) :
    (setting.change check).test = check.test ∧
      (setting.change check).isDisabled = check.isDisabled := by
  cases setting <;> exact ⟨rfl, rfl⟩

theorem changes_kept (settings : List Setting) (check : Healthcheck) :
    (settings.foldl Setting.change check).test = check.test ∧
      (settings.foldl Setting.change check).isDisabled = check.isDisabled := by
  induction settings generalizing check with
  | nil => exact ⟨rfl, rfl⟩
  | cons setting rest ih =>
    obtain ⟨test, switch⟩ := ih (setting.change check)
    obtain ⟨sameTest, sameSwitch⟩ := setting.change_kept check
    exact ⟨test.trans sameTest, switch.trans sameSwitch⟩

/-- A check that was given a setting carries one, whatever came before. -/
theorem Setting.change_not_bare (setting : Setting) (check : Healthcheck) :
    ¬ (setting.change check).Bare := by
  rintro ⟨_, interval, timeout, startPeriod, retries⟩
  cases setting with
  | interval => cases interval
  | timeout => cases timeout
  | startPeriod => cases startPeriod
  | retries => cases retries

/-- **A check that was bare stays so exactly if it is given nothing**: a later setting replaces the
value of an earlier one, it never takes a value away. -/
theorem changes_bare_iff (bare : start.Bare) (settings : List Setting) :
    (settings.foldl Setting.change start).Bare ↔ settings = [] := by
  refine ⟨fun left => ?_, fun none => none ▸ bare⟩
  -- the last setting that was given is the one that shows
  obtain none | ⟨earlier, last, same⟩ := settings.eq_nil_or_concat
  · exact none
  · rw [same, List.concat_eq_append, List.foldl_append] at left
    exact absurd left (last.change_not_bare _)

/-! ### Definitions -/

theorem after_append (check : Healthcheck) (first second : List Setting) :
    check.after (first ++ second) = check.after first >>= fun next => next.after second :=
  List.foldlM_append

/-- A setting that may be missing, made in its place. -/
theorem setIfSome_eq_after {α : Type} (kind : α → Setting) (value : Option α)
    (check : Healthcheck) :
    setIfSome value (fun check given => (kind given).set check) check =
      check.after (value.map kind).toList := by
  cases value with
  | none => rfl
  | some given =>
    show (kind given).set check = (kind given).set check >>= pure
    exact (bind_pure _).symm

/-- **A definition that does not switch off** is its command and then its settings, one by one. -/
theorem ofSpec_eq {spec : Spec} {test : Command} (on : spec.disable = false)
    (given : spec.test = some test) :
    ofSpec spec = running test >>= fun check => check.after spec.settings := by
  have interval := setIfSome_eq_after .interval spec.interval
  have timeout := setIfSome_eq_after .timeout spec.timeout
  have startPeriod := setIfSome_eq_after .startPeriod spec.startPeriod
  have retries := setIfSome_eq_after .retries spec.retries
  unfold ofSpec Spec.settings
  rw [if_neg (by simp [on]), given]
  simp only [after_append, bind_assoc, ← interval, ← timeout, ← startPeriod, ← retries]
  rfl

theorem runs_of_running {test : Command} (made : running test = .ok check) :
    check.isDisabled = false ∧ check.test.isSome := by
  obtain ⟨_, _, same⟩ := Edit.bind_eq_ok.mp made
  cases same
  exact ⟨rfl, rfl⟩

/-- **What a definition comes to**: the switch and nothing else, or a command that runs. -/
theorem ofSpec_cases {spec : Spec} (made : ofSpec spec = .ok check) :
    check = disabled ∨ check.isDisabled = false ∧ check.test.isSome := by
  cases switch : spec.disable with
  | true =>
    unfold ofSpec at made
    rw [if_pos switch] at made
    split at made
    · cases made
    · cases made
      exact .inl rfl
  | false =>
    cases given : spec.test with
    | none =>
      unfold ofSpec at made
      rw [if_neg (by simp [switch]), given] at made
      cases made
    | some test =>
      rw [ofSpec_eq switch given] at made
      obtain ⟨begun, ran, settled⟩ := Edit.bind_eq_ok.mp made
      obtain ⟨off, command⟩ := runs_of_running ran
      obtain ⟨sameTest, sameSwitch⟩ := changes_kept spec.settings begun
      rw [after_eq settled]
      exact .inr ⟨sameSwitch.trans off, sameTest ▸ command⟩

/-! ### Checks that are turned off -/

/-- The ways to begin a check. -/
inductive Begun : Healthcheck → Prop where
  | running {test : Command} {check : Healthcheck} (made : Healthcheck.running test = .ok check) :
      Begun check
  | disabled : Begun disabled
  | ofSpec {spec : Spec} {check : Healthcheck} (made : Healthcheck.ofSpec spec = .ok check) :
      Begun check

/-- **A check begins turned off and bare, or with a command to run.** -/
theorem Begun.cases (begun : start.Begun) :
    start = Healthcheck.disabled ∨ start.isDisabled = false ∧ start.test.isSome := by
  cases begun with
  | running made => exact .inr (runs_of_running made)
  | disabled => exact .inl rfl
  | ofSpec made => exact ofSpec_cases made

/-- **What settings leave**: a check that is turned off and carries what it was given, or one with a
command to run. -/
theorem after_cases (begun : start.Begun) (made : start.after settings = .ok check) :
    (check = settings.foldl Setting.change disabled ∧ check.test = none ∧
        check.isDisabled = true) ∨
      check.isDisabled = false ∧ check.test.isSome := by
  rw [after_eq made]
  obtain ⟨sameTest, sameSwitch⟩ := changes_kept settings start
  obtain rfl | ⟨on, command⟩ := begun.cases
  · exact .inl ⟨rfl, sameTest, sameSwitch⟩
  · exact .inr ⟨sameSwitch.trans on, sameTest ▸ command⟩

theorem disabled_bare : disabled.Bare := ⟨rfl, rfl, rfl, rfl, rfl⟩

/-- **What a check that is turned off carries.** However a check was begun and whatever settings it
was given: if it is not turned off, it has a command to run. If it is turned off, it has none, it
shows the switch and nothing else, and it carries exactly the settings that it was given; so it is
bare only if it was given none. A definition that turns the check off gives none. -/
theorem disabled_carries {start check : Healthcheck} {settings : List Setting}
    (begun : start.Begun) (made : start.after settings = .ok check) :
    (check.isDisabled = false → check.test.isSome) ∧
      (check.isDisabled = true →
        check.test = none ∧
        Manifest.healthcheckBody check = [.raw "disable" "true"] ∧
        check = settings.foldl Setting.change disabled ∧
        (check.Bare ↔ settings = [])) ∧
      ∀ spec, ofSpec spec = .ok check → check.isDisabled = true → check.Bare := by
  refine ⟨fun on => ?_, fun off => ?_, fun spec defined off => ?_⟩
  · obtain ⟨_, _, off⟩ | ⟨_, command⟩ := after_cases begun made
    · exact absurd (on.symm.trans off) nofun
    · exact command
  · obtain ⟨same, noTest, _⟩ | ⟨on, _⟩ := after_cases begun made
    · exact ⟨noTest, if_pos off, same, same ▸ changes_bare_iff disabled_bare settings⟩
    · exact absurd (off.symm.trans on) nofun
  · obtain same | ⟨on, _⟩ := ofSpec_cases defined
    · exact same ▸ disabled_bare
    · exact absurd (off.symm.trans on) nofun

/-- A check that was turned off and then given an interval keeps the interval, and does not show
it. -/
theorem disabled_carries_interval :
    disabled.Begun ∧
      disabled.after [.interval "10s"] =
        .ok { disabled with interval := some "10s" } ∧
      Manifest.healthcheckBody { disabled with interval := some "10s" } =
        [.raw "disable" "true"] ∧
      ¬ { disabled with interval := some "10s" : Healthcheck }.Bare := by
  have begun : disabled.Begun := .disabled
  have made : disabled.after [.interval "10s"] =
      .ok { disabled with interval := some "10s" } := by decide +kernel
  obtain ⟨_, off, _⟩ := disabled_carries begun made
  obtain ⟨_, shown, _, bare⟩ := off rfl
  exact ⟨begun, made, shown, fun none => nomatch bare.mp none⟩

/-- Not every check that is turned off is bare. -/
theorem disabled_not_bare :
    ¬ ∀ (start check : Healthcheck) (settings : List Setting), start.Begun →
      start.after settings = .ok check → check.isDisabled = true → check.Bare := by
  intro bare
  have made : disabled.after [.interval "10s"] =
      .ok { disabled with interval := some "10s" } := by decide +kernel
  exact nomatch (bare disabled _ _ .disabled made rfl).interval

end Healthcheck

end ContainerStack
