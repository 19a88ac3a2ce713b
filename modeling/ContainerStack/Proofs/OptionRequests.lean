import ContainerStack.Proofs.OptionTables

/-!
**Options are given out once, and none is overlooked.**

Options are requested one by one, as ones that must be there or as ones that may be missing. The
first request of a key takes its option out of the bag, whatever the answer is, so what is left at
the end are the options whose keys were never requested, in their old order.

* `OptionBag.Request`, `OptionBag.Request.answer`: a request, and what a bag answers.
* `OptionBag.after`: the bag after some requests, refused ones included; `after_eq`: their keys are
  missing from it, and nothing else.
* `OptionBag.close_eq_error`: a bag that is not empty names the first option that is left.
* `options_accounted_for`: the answer to every request, and the end.
-/

namespace ContainerStack

open Edit

namespace OptionBag

/-- A request for one option. -/
inductive Request where
  | required (key : String)
  | optional (key : String)
  deriving DecidableEq, Repr

namespace Request

/-- The key that is requested. -/
def key : Request → String
  | required key => key
  | optional key => key

/-- What a request does to a bag. -/
def edit : Request → Edit OptionBag (Option String)
  | required key => some <$> takeRequired key
  | optional key => take key

/-- What a bag answers to a request. -/
def answer (request : Request) (bag : OptionBag) : Except Fault (Option String) :=
  (request.edit.apply bag).1

/-- **A request takes its option out of the bag**, whether it is refused or not. -/
theorem edit_left (request : Request) (bag : OptionBag) :
    (request.edit.apply bag).2 = bag.without [request.key] := by
  cases request with
  | required key => rw [edit, apply_map, takeRequired_apply]; rfl
  | optional key => rfl

theorem answer_optional (key : String) (bag : OptionBag) :
    (optional key).answer bag = .ok (bag.remaining.get? key) := rfl

/-- An option that must be there is refused if it is missing or blank. -/
theorem answer_required (key : String) (bag : OptionBag) :
    (required key).answer bag =
      match bag.remaining.get? key with
      | none => .error (.missing bag.context key)
      | some value =>
        if Text.isBlankText value then .error (.missing bag.context key) else .ok (some value) := by
  rw [answer, edit, apply_map, takeRequired_apply]
  cases bag.remaining.get? key with
  | none => rfl
  | some value => cases blank : Text.isBlankText value <;> simp [Except.map, blank]

end Request

/-- The bag after some requests, refused ones included. -/
def after (bag : OptionBag) (requests : List Request) : OptionBag :=
  requests.foldl (fun bag request => (request.edit.apply bag).2) bag

/-- **After some requests their keys are missing**, and nothing else. -/
theorem after_eq (bag : OptionBag) (requests : List Request) :
    bag.after requests = bag.without (requests.map Request.key) := by
  induction requests generalizing bag with
  | nil => rfl
  | cons request rest ih =>
    show after (request.edit.apply bag).2 rest = _
    rw [request.edit_left, ih]
    rfl

/-- **A bag that is not empty names the first option that is left.** -/
theorem close_eq_error {bag : OptionBag} {fault : Fault} :
    bag.close = .error fault ↔ ∃ key rest, bag.remaining.keys = key :: rest ∧
      fault = .malformed (bag.context ++ " option") (.isNot key .driverOption) := by
  unfold close
  cases bag.remaining.keys with
  | nil => simp
  | cons key rest => simp [eq_comm]

end OptionBag

open OptionBag

/-- **Every option is accounted for.** Whatever was requested before, the first request of a key
that was given yields its value, unless it has to be there and is blank; a later request of the key
and a request of a key that was not given yield nothing. A blank value is gone after its refusal,
too. The bag can be closed exactly if every key was requested, and otherwise the fault names the
first key, in the order in which they were given, that never was. -/
theorem options_accounted_for (context : String) (given : OrderedMap String)
    (earlier : List Request) :
    let bag := after ⟨context, given⟩ earlier
    let asked := earlier.map Request.key
    (∀ key value, key ∉ asked → given.get? key = some value →
      (Request.optional key).answer bag = .ok (some value) ∧
      (Request.required key).answer bag =
        if Text.isBlankText value then .error (.missing context key) else .ok (some value)) ∧
    (∀ key, key ∈ asked ∨ given.get? key = none →
      (Request.optional key).answer bag = .ok none ∧
      (Request.required key).answer bag = .error (.missing context key)) ∧
    (bag.close = .ok () ↔ ∀ key ∈ given.keys, key ∈ asked) ∧
    ∀ fault, bag.close = .error fault ↔ ∃ before key rest, given.keys = before ++ key :: rest ∧
      (∀ other ∈ before, other ∈ asked) ∧ key ∉ asked ∧
      fault = .malformed (context ++ " option") (.isNot key .driverOption) := by
  intro bag asked
  have left : bag = without ⟨context, given⟩ asked := after_eq _ earlier
  have sameContext : bag.context = context := by rw [left]; rfl
  have keys : bag.remaining.keys = given.keys.filter (· ∉ asked) := by
    rw [left]
    exact OrderedMap.keys_eraseAll given asked
  have found (key : String) : bag.remaining.get? key =
      if key ∈ asked then none else given.get? key := by
    rw [left]
    exact OrderedMap.get?_eraseAll given asked key
  refine ⟨fun key value new there => ?first, fun key gone => ?later, ?empty, fun fault => ?rest⟩
  case first =>
    have here : bag.remaining.get? key = some value := by rw [found, if_neg new, there]
    rw [Request.answer_optional, Request.answer_required, here, sameContext]
    exact ⟨rfl, rfl⟩
  case later =>
    have nothing : bag.remaining.get? key = none := by
      rw [found]
      split
      · rfl
      · exact gone.resolve_left ‹_›
    rw [Request.answer_optional, Request.answer_required, nothing, sameContext]
    exact ⟨rfl, rfl⟩
  case empty =>
    rw [close_eq_ok, keys, List.filter_eq_nil_iff]
    simp
  case rest =>
    rw [close_eq_error, keys, sameContext]
    simp only [List.filter_eq_cons_iff, decide_eq_true_eq, not_not]
    constructor
    · rintro ⟨key, rest, ⟨before, others, order, passed, new, _⟩, names⟩
      exact ⟨before, key, others, order, passed, new, names⟩
    · rintro ⟨before, key, others, order, passed, new, names⟩
      exact ⟨key, _, ⟨before, others, order, passed, new, rfl⟩, names⟩

/-- Options of which one is blank. -/
def blankModeOptions : OrderedMap String :=
  OrderedMap.ofList [("mode", " "), ("tag", "web"), ("stray", "1"), ("size", "2m")]

theorem options_accounted_for_blankMode :
    let bag := after ⟨"driver", blankModeOptions⟩ [.optional "tag", .required "mode"]
    "stray" ∉ ["tag", "mode"] ∧ blankModeOptions.get? "stray" = some "1" ∧
      (Request.required "mode").answer ⟨"driver", blankModeOptions⟩ =
        .error (.missing "driver" "mode") ∧
      (Request.required "stray").answer bag = .ok (some "1") ∧
      (Request.optional "mode").answer bag = .ok none ∧
      (Request.required "labels").answer bag = .error (.missing "driver" "labels") ∧
      bag.close = .error (.malformed "driver option" (.isNot "stray" .driverOption)) ∧
      (Fault.malformed "driver option" (.isNot "stray" .driverOption)).message =
        "Invalid driver option: 'stray' is not a valid option for this driver" := by
  have fresh := options_accounted_for "driver" blankModeOptions []
  have used := options_accounted_for "driver" blankModeOptions [.optional "tag", .required "mode"]
  exact ⟨by decide, rfl, (fresh.1 "mode" " " (by decide) rfl).2,
    (used.1 "stray" "1" (by decide) rfl).2, (used.2.1 "mode" (.inl (by decide))).1,
    (used.2.1 "labels" (.inr rfl)).2,
    (used.2.2.2 _).mpr ⟨["mode", "tag"], "stray", ["size"], rfl, by decide, by decide, rfl⟩,
    rfl⟩

end ContainerStack
