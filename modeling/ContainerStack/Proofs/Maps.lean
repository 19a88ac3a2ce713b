import ContainerStack.Proofs.Registries
import Mathlib.Data.List.Induction
import Mathlib.Data.List.Perm.Basic

/-!
**Lists without repetitions, and maps from the pairs that were inserted.**

* `foldl_addNew`: adding items one by one unless they are there already removes repetitions.
* `OrderedMap.insertAll`: inserts pairs one by one. `keys_insertAll`, `get?_insertAll`: what is
  there then; the first place and the last value of a key count.
* `OrderedMap.keys_merge`, `OrderedMap.get?_merge`: the same for two maps.
* `OrderedMap.among`: the pairs of some keys, in the order of the keys. `perm_among`: these are all
  pairs if no key is missing.
* `OrderedMap.eq_filterMap_lookup`: pairs whose keys follow an order are found by their look-up.
-/

namespace ContainerStack

/-! ### Lists without repetitions -/

section Distinct

variable {α : Type} [BEq α] [LawfulBEq α]

theorem eraseDups_concat (items : List α) (item : α) : (items ++ [item]).eraseDups =
    if items.contains item then items.eraseDups else items.eraseDups ++ [item] := by
  by_cases there : item ∈ items
  · simp [List.eraseDups_append, List.removeAll, there]
  · simp [List.eraseDups_append, List.removeAll, there, List.eraseDups_cons]

/-- Adding items one by one unless they are there already removes repetitions. -/
theorem foldl_addNew (items : List α) :
    items.foldl (fun held item => if held.contains item then held else held ++ [item]) [] =
      items.eraseDups := by
  induction items using List.reverseRecOn with
  | nil => rfl
  | append_singleton before item ih =>
    rw [List.foldl_append, ih, eraseDups_concat, List.foldl_cons, List.foldl_nil]
    simp [List.mem_eraseDups]

/-- A list without repetitions stays as it is. -/
theorem eraseDups_of_nodup {items : List α} (distinct : items.Nodup) : items.eraseDups = items := by
  induction items using List.reverseRecOn with
  | nil => rfl
  | append_singleton before item ih =>
    obtain ⟨earlier, _, apart⟩ := List.nodup_append.mp distinct
    have new : before.contains item = false := by
      simpa using fun there => apart item there item (List.mem_singleton_self item) rfl
    rw [eraseDups_concat, new, ih earlier]
    rfl

end Distinct

/-- Of a list without repetitions, one item at most is looked up. -/
theorem filterMap_only {α β : Type} [DecidableEq α] {items : List α} (distinct : items.Nodup)
    {item : α} (listed : item ∈ items) (find : α → Option β) :
    (items.filterMap fun other => if other = item then find other else none) =
      (find item).toList := by
  induction items with
  | nil => cases listed
  | cons first rest ih =>
    obtain ⟨new, distinct⟩ := List.nodup_cons.mp distinct
    rw [List.filterMap_cons]
    by_cases here : first = item
    · subst here
      have others : (rest.filterMap fun other => if other = first then find other else none) = [] :=
        List.filterMap_eq_nil_iff.mpr fun other member =>
          if_neg (ne_of_mem_of_not_mem member new)
      rw [if_pos rfl, others]
      cases find first <;> rfl
    · rw [if_neg here]
      exact ih distinct (List.mem_of_ne_of_mem (Ne.symm here) listed)

theorem isEmpty_eraseDups {α : Type} [BEq α] (items : List α) :
    items.eraseDups.isEmpty = items.isEmpty := by
  cases items with
  | nil => rfl
  | cons item rest => rw [List.eraseDups_cons]; rfl

namespace OrderedMap

variable {α : Type}

/-! ### Inserting pairs -/

/-- Inserts pairs from the left. -/
def insertAll (entriesMap : OrderedMap α) (pairs : List (String × α)) : OrderedMap α :=
  pairs.foldl (fun entriesMap pair => entriesMap.insert pair.1 pair.2) entriesMap

theorem insertAll_concat (entriesMap : OrderedMap α) (pairs : List (String × α))
    (pair : String × α) :
    entriesMap.insertAll (pairs ++ [pair]) = (entriesMap.insertAll pairs).insert pair.1 pair.2 := by
  rw [insertAll, List.foldl_append]
  rfl

/-- **The keys after insertions** are those from before and then the new ones, by their first
places. -/
theorem keys_insertAll (entriesMap : OrderedMap α) (pairs : List (String × α)) :
    (entriesMap.insertAll pairs).keys =
      entriesMap.keys ++ ((pairs.map Prod.fst).eraseDups.filter (!entriesMap.contains ·)) := by
  induction pairs using List.reverseRecOn with
  | nil => exact (List.append_nil _).symm
  | append_singleton before pair ih =>
    rw [insertAll_concat, keys_insert, ih, List.map_append, List.map_singleton, eraseDups_concat]
    by_cases old : pair.1 ∈ entriesMap.keys
    · have held : entriesMap.contains pair.1 = true := contains_eq_true.mpr old
      by_cases again : pair.1 ∈ before.map Prod.fst
      · simp [old, again]
      · simp [old, again, held]
    · have free : entriesMap.contains pair.1 = false := by
        rwa [← Bool.not_eq_true, contains_eq_true]
      by_cases again : pair.1 ∈ before.map Prod.fst
      · simp [again, free]
      · simp [old, again, free]

/-- **The look-up after insertions** finds the last value that was inserted, or what was there
before. -/
theorem get?_insertAll (entriesMap : OrderedMap α) (pairs : List (String × α)) (key : String) :
    (entriesMap.insertAll pairs).get? key =
      (pairs.reverse.lookup key).or (entriesMap.get? key) := by
  induction pairs using List.reverseRecOn with
  | nil => rfl
  | append_singleton before pair ih =>
    rw [insertAll_concat, get?_insert, ih, List.reverse_concat', List.lookup_cons]
    by_cases same : key = pair.1
    · simp [same]
    · rw [if_neg same, beq_eq_false_iff_ne.mpr same]

theorem keys_ofList (pairs : List (String × α)) :
    (ofList pairs).keys = (pairs.map Prod.fst).eraseDups := by
  refine (keys_insertAll .empty pairs).trans ?_
  rw [keys_empty, List.nil_append]
  exact List.filter_eq_self.mpr fun _ _ => rfl

theorem get?_ofList (pairs : List (String × α)) (key : String) :
    (ofList pairs).get? key = pairs.reverse.lookup key :=
  (get?_insertAll .empty pairs key).trans (Option.or_none ..)

theorem lookup_reverse {pairs : List (String × α)} (distinct : (pairs.map Prod.fst).Nodup)
    (key : String) : pairs.reverse.lookup key = pairs.lookup key := by
  have reversed : (pairs.reverse.map Prod.fst).Nodup := by
    rwa [List.map_reverse, List.nodup_reverse]
  refine Option.ext fun value => ?_
  rw [lookup_eq_some reversed, lookup_eq_some distinct, List.mem_reverse]

/-! ### Merging maps -/

/-- **The keys of a merge** are those of the first map and then those of the second one alone. -/
theorem keys_merge (first second : OrderedMap α) :
    (first.merge second).keys = first.keys ++ second.keys.filter (!first.contains ·) := by
  refine (keys_insertAll first second.entries).trans ?_
  rw [eraseDups_of_nodup second.nodup_keys]
  rfl

/-- **The look-up in a merge** prefers the second map. -/
theorem get?_merge (first second : OrderedMap α) (key : String) :
    (first.merge second).get? key = (second.get? key).or (first.get? key) := by
  refine (get?_insertAll first second.entries key).trans ?_
  rw [lookup_reverse second.nodup_keys]
  rfl

/-! ### Pairs in the order of given keys -/

/-- **Pairs whose keys follow an order** are what the look-up finds along it. -/
theorem eq_filterMap_lookup {pairs : List (String × α)} {keys : List String}
    (follow : (pairs.map Prod.fst).Sublist keys) (distinct : keys.Nodup) :
    pairs = keys.filterMap fun key => (pairs.lookup key).map fun value => (key, value) := by
  induction keys generalizing pairs with
  | nil => exact List.map_eq_nil_iff.mp (List.sublist_nil.mp follow)
  | cons first rest ih =>
    obtain ⟨new, distinct⟩ := List.nodup_cons.mp distinct
    cases pairs with
    | nil => simp
    | cons pair others =>
      obtain ⟨name, value⟩ := pair
      by_cases here : first = name
      · subst here
        have later := ih (List.cons_sublist_cons.mp follow) distinct
        rw [List.filterMap_cons_some (by rw [List.lookup_cons_self]; rfl)]
        refine congrArg ((first, value) :: ·) (later.trans ?_)
        -- The first pair is not found under any later key, since the keys differ.
        refine List.filterMap_congr fun key member => ?_
        rw [List.lookup_cons, beq_eq_false_iff_ne.mpr (ne_of_mem_of_not_mem member new)]
      · have skips : (((name, value) :: others).map Prod.fst).Sublist rest := by
          cases follow with
          | cons _ skips => exact skips
          | cons_cons => exact absurd rfl here
        have absent : ((name, value) :: others).lookup first = none := by
          refine Option.eq_none_iff_forall_ne_some.mpr fun found same => new (skips.subset ?_)
          have member := (lookup_eq_some (skips.nodup distinct)).mp same
          exact List.mem_map_of_mem member
        rw [List.filterMap_cons_none (by rw [absent]; rfl)]
        exact ih skips distinct

/-- Pairs are determined by their keys and what is found under them. -/
theorem eq_of_lookup {first second : List (String × α)} (distinct : (first.map Prod.fst).Nodup)
    (keys : second.map Prod.fst = first.map Prod.fst)
    (found : ∀ key, second.lookup key = first.lookup key) : second = first := by
  calc second
    _ = (second.map Prod.fst).filterMap fun key =>
        (second.lookup key).map fun value => (key, value) :=
      eq_filterMap_lookup (.refl _) (keys ▸ distinct)
    _ = (first.map Prod.fst).filterMap fun key =>
        (first.lookup key).map fun value => (key, value) := by
      simp only [keys, found]
    _ = first := (eq_filterMap_lookup (.refl _) distinct).symm

/-- The pairs of some keys, in the order of the keys. -/
def among (entriesMap : OrderedMap α) (keys : List String) : List (String × α) :=
  keys.filterMap fun key => (entriesMap.get? key).map fun value => (key, value)

theorem mem_among {entriesMap : OrderedMap α} {keys : List String} {key : String} {value : α} :
    (key, value) ∈ entriesMap.among keys ↔ key ∈ keys ∧ entriesMap.get? key = some value := by
  simp [among, and_comm, and_left_comm]

/-- Pairs that are found under their own keys follow the order of the keys. -/
theorem keys_filterMap {find : String → Option (String × α)}
    (own : ∀ key pair, find key = some pair → pair.1 = key) (keys : List String) :
    ((keys.filterMap find).map Prod.fst).Sublist keys := by
  induction keys with
  | nil => exact .slnil
  | cons key rest ih =>
    rw [List.filterMap_cons]
    cases found : find key with
    | none => exact ih.cons key
    | some pair =>
      obtain rfl := own key pair found
      exact ih.cons_cons pair.1

theorem keys_among (entriesMap : OrderedMap α) (keys : List String) :
    ((entriesMap.among keys).map Prod.fst).Sublist keys := by
  refine keys_filterMap (fun key pair found => ?_) keys
  obtain ⟨_, _, rfl⟩ := Option.map_eq_some_iff.mp found
  rfl

theorem lookup_among {entriesMap : OrderedMap α} {keys : List String} (distinct : keys.Nodup)
    {key : String} (listed : key ∈ keys) :
    (entriesMap.among keys).lookup key = entriesMap.get? key := by
  refine Option.ext fun value => ?_
  rw [lookup_eq_some ((keys_among entriesMap keys).nodup distinct), mem_among]
  exact and_iff_right listed

/-- **These are all pairs** if no key is missing. -/
theorem perm_among {entriesMap : OrderedMap α} {keys : List String} (distinct : keys.Nodup)
    (all : ∀ key ∈ entriesMap.keys, key ∈ keys) :
    (entriesMap.among keys).Perm entriesMap.toList := by
  have pairs := ((keys_among entriesMap keys).nodup distinct).of_map
  refine (List.perm_ext_iff_of_nodup pairs entriesMap.nodup_keys.of_map).mpr fun pair => ?_
  rw [mem_among, get?_eq_some]
  exact and_iff_right_of_imp fun member => all pair.1 (List.mem_map_of_mem member)

/-- **The map of pairs whose keys follow an order** gives the pairs back. -/
theorem among_ofList {pairs : List (String × α)} {keys : List String}
    (follow : (pairs.map Prod.fst).Sublist keys) (distinct : keys.Nodup) :
    (ofList pairs).among keys = pairs := by
  refine Eq.trans (List.filterMap_congr fun key _ => ?_) (eq_filterMap_lookup follow distinct).symm
  rw [get?_ofList, lookup_reverse (follow.nodup distinct)]

end OrderedMap

end ContainerStack
