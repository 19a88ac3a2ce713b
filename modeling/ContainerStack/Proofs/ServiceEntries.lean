import ContainerStack.Proofs.ManifestLines

/-!
**What a manifest says about one service.**

The text of a manifest is read as a tree, and what stands in it under the name of a service are the
fields of that service. So a fact about one field is a fact about the text.

* `Tree.at?`: what stands at the end of a path of keys.
* `Stack.tree_service`, `Stack.tree_field`: the tree of a stack holds the tree of every service
  under its name, with all its fields.
* `Manifest.read?_rendered`: a manifest that is rendered is read as the tree of its stack.
-/

namespace ContainerStack

open Yaml (Tree Field)

namespace Yaml

namespace Tree

/-- The value under a key of a map. -/
def get? : Tree → String → Option Tree
  | .mapping entries, key => entries.lookup key
  | _, _ => none

/-- What stands at the end of a path of keys. -/
def at? (tree : Tree) (path : List String) : Option Tree := path.foldlM get? tree

theorem at?_singleton (tree : Tree) (key : String) : tree.at? [key] = tree.get? key :=
  List.foldlM_cons.trans (Option.bind_fun_some _)

theorem at?_append (tree : Tree) (first second : List String) :
    tree.at? (first ++ second) = (tree.at? first).bind (·.at? second) := List.foldlM_append

theorem get?_record {entries : List (String × Tree)} (full : entries ≠ []) (key : String) :
    (record? entries).bind (·.get? key) = entries.lookup key := by
  rw [record?, if_neg (by simpa using full)]
  rfl

theorem texts?_eq (values : List String) :
    texts? values = if values = [] then none else some (.sequence (values.map .text)) := by
  cases values <;> rfl

theorem pairs?_eq (entries : List (String × String)) : pairs? entries =
    if entries = [] then none
      else some (.mapping (entries.map fun (key, value) => (key, .text value))) := by
  cases entries <;> rfl

end Tree

theorem Field.mem_given {fields : List Field} {key : String} {tree : Tree} :
    (key, tree) ∈ Field.given fields ↔ (key, some tree) ∈ fields := by
  simp only [Field.given, List.mem_filterMap, Option.map_eq_some_iff, Prod.mk.injEq]
  constructor
  · rintro ⟨⟨_, _⟩, member, _, rfl, rfl, rfl⟩
    exact member
  · exact fun member => ⟨_, member, tree, rfl, rfl, rfl⟩

theorem Field.lookup_given {fields : List Field} (distinct : (fields.map Prod.fst).Nodup)
    {key : String} {value : Option Tree} (member : (key, value) ∈ fields) :
    (Field.given fields).lookup key = value := by
  have found := (OrderedMap.lookup_eq_some distinct).mpr member
  refine Option.ext fun tree => ?_
  rw [OrderedMap.lookup_eq_some ((Field.keys_given fields).nodup distinct), Field.mem_given,
    ← OrderedMap.lookup_eq_some distinct, found, Option.some_inj]

/-- **A map of fields** has under each key the value of its field. -/
theorem Tree.get?_ofFields {fields : List Field} (distinct : (fields.map Prod.fst).Nodup)
    {key : String} {value : Option Tree} (member : (key, value) ∈ fields) :
    (Tree.ofFields fields).get? key = value := by
  rw [← Field.lookup_given distinct member, Tree.ofFields]
  by_cases full : Field.given fields = []
  · rw [full]
    rfl
  · rw [← Tree.get?_record full, Tree.record?, if_neg (by simpa using full)]
    rfl

end Yaml

namespace Stack

variable {stack : Stack} {service : Service}

/-- **The tree of a stack holds the tree of every service** under its name. -/
theorem tree_service (sound : stack.Sound) (registered : service ∈ stack.services.toList) :
    stack.tree.at? ["services", service.name] = some (Manifest.serviceTree stack service) := by
  have ordered := sound.mem_renderOrder.mpr registered
  have listed : (service.name, Manifest.serviceTree stack service) ∈
      stack.renderOrder.map fun service => (service.name, Manifest.serviceTree stack service) :=
    List.mem_map_of_mem ordered
  have distinct : ((stack.renderOrder.map fun service =>
      (service.name, Manifest.serviceTree stack service)).map Prod.fst).Nodup := by
    rw [List.map_map]
    exact sound.renderOrder_names
  have section? : stack.tree.get? "services" = Tree.record? (stack.renderOrder.map fun service =>
      (service.name, Manifest.serviceTree stack service)) := by
    rw [sound.renderOrder_eq]
    exact Tree.get?_ofFields (by simp) List.mem_cons_self
  have entry := Tree.get?_record (List.ne_nil_of_mem listed) service.name
  rw [(OrderedMap.lookup_eq_some distinct).mpr listed] at entry
  calc stack.tree.at? (["services"] ++ [service.name])
    _ = (stack.tree.at? ["services"]).bind (·.at? [service.name]) := Tree.at?_append ..
    _ = some (Manifest.serviceTree stack service) := by
      simp only [Tree.at?_singleton]
      rw [section?, entry]

/-- What stands under a key in the tree of a service stands at the end of a path. -/
theorem tree_field (sound : stack.Sound) (registered : service ∈ stack.services.toList)
    (key : String) :
    stack.tree.at? ["services", service.name, key] =
      (Manifest.serviceTree stack service).get? key := by
  calc stack.tree.at? (["services", service.name] ++ [key])
    _ = (stack.tree.at? ["services", service.name]).bind (·.at? [key]) := Tree.at?_append ..
    _ = (Manifest.serviceTree stack service).get? key := by
      rw [tree_service sound registered, Option.bind_some, Tree.at?_singleton]

end Stack

namespace Manifest

variable {stack : Stack}

/-- **A manifest that is rendered is read as the tree of its stack.** -/
theorem read?_rendered (sound : stack.Sound) {text : String}
    (rendered : (Stack.renderManifest.apply stack).1 = .ok text) :
    Yaml.Reading.read? text = some stack.tree := by
  rw [renderManifest_eq sound] at rendered
  obtain ⟨steps, made, written⟩ := Edit.bind_eq_ok.mp rendered
  obtain ⟨same, renders, reads⟩ := read?_render sound made
  rw [written] at renders
  cases renders
  exact reads

end Manifest

end ContainerStack
