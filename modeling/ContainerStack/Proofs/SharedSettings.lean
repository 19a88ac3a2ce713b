import ContainerStack.Proofs.Maps
import ContainerStack.Proofs.Representation
import ContainerStack.Proofs.ServiceEntries

/-!
**Settings for all services, as a service has them.**

A stack has variables and files of variables for all its services. A service has its own, and the
two are merged when the manifest is rendered: a variable of the service overrides the one of the
stack in its place, and a file that both list counts as one of the service.

* `Service.Built.envFiles_nodup`, `Stack.Reached.envFiles_nodup`: no list of files has repeats.
* `MergesVariables`, `MergesFiles`: what it is to merge, said of the lists alone.
  `mergedEnvironment_merges`, `mergedEnvFiles_merges`: that is what is rendered.
* `settings_merge`: the blocks that the manifest has for a service.
-/

namespace ContainerStack

open Edit
open Yaml (Tree)
open Yaml.Reading (read?)

/-! ### Files without repeats -/

/-- **The files of a service have no repeats**, whatever was called on it. -/
theorem Service.Built.envFiles_nodup {service : Service} (built : service.Built) :
    service.envFiles.Nodup := by
  obtain ⟨_, start, created, leads⟩ := built
  refine leads.keeps (fun service => service.envFiles.Nodup) (fun edit call service here => ?_)
    (create_tidy created).envFiles
  obtain ⟨lookup, setting, _, rfl⟩ := call
  refine (setting_assigns setting).left (fun service => service.envFiles.Nodup) here fun _ => ?_
  cases setting with
  | envFile path => exact nodup_appendNew here path
  | port given =>
    rw [Setting.change_port]
    exact here
  | _ => exact here

namespace Stack

theorem Step.envFiles_nodup {before after : Stack} (distinct : before.envFiles.Nodup)
    (step : before.Step after) : after.envFiles.Nodup := by
  cases step with
  | envFileAdded path => exact Service.nodup_appendNew distinct path
  | _ => exact distinct

/-- **The files of a stack have no repeats.** -/
theorem Reached.envFiles_nodup {stack : Stack} (reached : stack.Reached) :
    stack.envFiles.Nodup := by
  refine reached.keeps (fun _ _ start created => ?_) fun _ _ => Step.envFiles_nodup
  obtain ⟨_, _, created⟩ := bind_eq_ok.mp created
  obtain ⟨_, _, same⟩ := bind_eq_ok.mp created
  cases same
  exact List.nodup_nil

end Stack

/-! ### Merging -/

/-- The pairs are the shared variables and then the own ones that are not shared, each key once,
each with its own value if it has one and with the shared value otherwise. -/
structure MergesVariables (shared own : OrderedMap String) (merged : List (String × String)) :
    Prop where
  keys : merged.map Prod.fst = shared.keys ++ own.keys.filter (· ∉ shared.keys)
  once : (merged.map Prod.fst).Nodup
  values : ∀ key value, (key, value) ∈ merged ↔
    own.get? key = some value ∨ own.get? key = none ∧ shared.get? key = some value

/-- The files are the own ones and then the shared ones that are not listed among them, each file
once. -/
structure MergesFiles (shared own merged : List String) : Prop where
  order : merged = own ++ shared.filter (· ∉ own)
  once : merged.Nodup

theorem OrderedMap.merge_merges (shared own : OrderedMap String) :
    MergesVariables shared own (shared.merge own).toList where
  keys := by
    refine (keys_merge shared own).trans (congrArg _ (List.filter_congr fun key _ => ?_))
    by_cases there : key ∈ shared.keys <;> simp [contains, there]
  once := (shared.merge own).nodup_keys
  values key value := by
    rw [toList, ← get?_eq_some, get?_merge, Option.or_eq_some_iff]

theorem mergesFiles_eraseDups {shared own : List String} (sharedOnce : shared.Nodup)
    (ownOnce : own.Nodup) : MergesFiles shared own (own ++ shared).eraseDups := by
  have order : (own ++ shared).eraseDups = own ++ shared.filter (· ∉ own) := by
    have others : shared.removeAll own = shared.filter (· ∉ own) :=
      List.filter_congr fun file _ => by simp
    rw [List.eraseDups_append, eraseDups_of_nodup ownOnce, others,
      eraseDups_of_nodup (sharedOnce.filter _)]
  refine ⟨order, order ▸ ownOnce.append (sharedOnce.filter _) fun file listed added => ?_⟩
  simpa [listed] using (List.mem_filter.mp added).2

namespace Manifest

theorem mergedEnvironment_merges (stack : Stack) (service : Service) :
    MergesVariables stack.environment service.environment
      (mergedEnvironment stack service).toList :=
  OrderedMap.merge_merges stack.environment service.environment

theorem mergedEnvFiles_merges {stack : Stack} {service : Service} (shared : stack.envFiles.Nodup)
    (own : service.envFiles.Nodup) :
    MergesFiles stack.envFiles service.envFiles (mergedEnvFiles stack service) := by
  rw [mergedEnvFiles_eq]
  exact mergesFiles_eraseDups shared own

end Manifest

/-- A document shows the merged settings of a service in two blocks, each of which is left out
exactly if it has no entries. -/
def ShowsMerged (stack : Stack) (service : Service) (document : Tree) : Prop :=
  ∃ environment files, MergesVariables stack.environment service.environment environment ∧
    MergesFiles stack.envFiles service.envFiles files ∧
    document.at? ["services", service.name, "environment"] =
      (if environment = [] then none
        else some (.mapping (environment.map fun (key, value) => (key, .text value)))) ∧
    document.at? ["services", service.name, "env_file"] =
      if files = [] then none else some (.sequence (files.map .text))

/-- **Settings for all services are merged into every service.** Whatever was done to a stack, its
manifest is read as a document in which a service has the variables of the stack and then those that
it alone sets, each with the value of the service if it sets one, and its own files and then those
of the stack that it does not list. A block without entries is left out, and only then. -/
theorem settings_merge {stack : Stack} (reached : stack.Reached) {text : String}
    (rendered : (Stack.renderManifest.apply stack).1 = .ok text) {service : Service}
    (registered : service ∈ stack.services.toList) :
    ∃ document, read? text = some document ∧ ShowsMerged stack service document := by
  have sound := reached.sound
  have built := (sound.services.of_mem registered).1
  refine ⟨stack.tree, Manifest.read?_rendered sound rendered,
    (Manifest.mergedEnvironment stack service).toList, Manifest.mergedEnvFiles stack service,
    Manifest.mergedEnvironment_merges stack service,
    Manifest.mergedEnvFiles_merges reached.envFiles_nodup built.envFiles_nodup, ?block, ?list⟩
  case block =>
    rw [Stack.tree_field sound registered, ← Tree.pairs?_eq, Manifest.mergedEnvironment_toList]
    exact Tree.get?_ofFields (by simp) (by simp)
  case list =>
    rw [Stack.tree_field sound registered, ← Tree.texts?_eq, Manifest.mergedEnvFiles_eq]
    exact Tree.get?_ofFields (by simp) (by simp)

/-- A run in which a service overrides a variable, which then changes in the stack, and lists a file
that the stack lists, too. -/
def Stack.overridingRun {web : Service} (webCreated : Service.create "web" = .ok web) :
    List Stack.Operation :=
  [.setEnv "LEVEL" "1", .setEnv "MODE" "test", .addEnvFile "common.env", .addEnvFile "base.env",
    .addService _ (Service.assembled_built webCreated .everything
      [.image "nginx", .env "PORT" "80", .env "LEVEL" "2", .envFile "web.env",
        .envFile "common.env"]),
    .setEnv "MODE" "live", .setEnv "LEVEL" "3"]

theorem settings_merge_overridingRun :
    ∃ start web, ∃ webCreated : Service.create "web" = .ok web,
      Stack.create "shop" .everything = .ok start ∧
      let left := start.run (Stack.overridingRun webCreated)
      let text := String.join (["services:", "  web:", "    image: nginx", "    environment:",
        "      LEVEL: \"2\"", "      MODE: \"live\"", "      PORT: \"80\"", "    env_file:",
        "      - web.env", "      - common.env", "      - base.env"].map (· ++ "\n"))
      (Stack.renderManifest.apply left).1 = .ok text ∧
      ∃ service ∈ left.services.toList, service.name = "web" ∧
        ∃ document, read? text = some document ∧ ShowsMerged left service document := by
  have created : Stack.create "shop" .everything = .ok _ := rfl
  have reached : Stack.Reached _ := ⟨_, _, _, Stack.overridingRun rfl, created, rfl⟩
  refine ⟨_, _, rfl, created, ?rendered, _, List.mem_cons_self, rfl,
    settings_merge reached ?rendered List.mem_cons_self⟩
  case rendered => rfl

end ContainerStack
