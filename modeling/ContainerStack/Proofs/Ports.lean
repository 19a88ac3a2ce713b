import ContainerStack.Proofs.Representation
import ContainerStack.Proofs.ServiceEntries

/-!
**Ports, from definitions to the manifest.**

A definition of a port is read, which may be refused, and the port is added to a service, which may
be refused as well. A port without a number on the host has its own number there, so ports that
differ may want the same place. The manifest writes a port for other services only as its number,
and any other port as its number on the host and its own.

* `PortMapping.ofSpec_eq_ok`: which definitions are read. `PortMapping.Sound`: what holds of a port
  that was read.
* `Service.AddsPort`, `addPort_adds`: the three ends of adding a port.
* `Service.Ported`: a service whose ports were read from definitions, with whatever else was called
  on it. `Service.PortsSound`, `Ported.portsSound`: what holds of its ports.
* `PortMapping.line`: what the manifest says of a port. `Service.ListsPorts`: two lists of such
  lines in which every port stands once. `PortsSound.listsPorts`: these are the lists.
* `ports_listed`: the ports of such a service, and the lists that the manifest has of them.
-/

namespace ContainerStack

open Edit
open Yaml (Tree)
open Yaml.Reading (read?)

namespace PortMapping

/-! ### Definitions of ports -/

/-- A number that a port may have. -/
def InRange (number : Nat) : Prop := 1 ≤ number ∧ number ≤ 65535

theorem checkNumber_eq_ok {subject : String} {number : Nat} {answer : Unit} :
    checkNumber subject number = .ok answer ↔ InRange number := by
  simp [checkNumber, Validation.ensure_eq_ok, InRange]

/-- What holds of a port that was read from a definition. -/
structure Sound (port : PortMapping) : Prop where
  internal : InRange port.internal
  external : ∀ number ∈ port.external, InRange number
  internalOnly : port.isInternalOnly = true → port.external = none

/-- **A definition is read exactly if its numbers are in range** and it publishes no port that is
for other services only. -/
theorem ofSpec_eq_ok {spec : Spec} {port : PortMapping} : ofSpec spec = .ok port ↔
    port = ⟨spec.internal, spec.external, spec.isInternalOnly⟩ ∧ port.Sound := by
  obtain ⟨internal, external, isInternalOnly⟩ := spec
  constructor
  · intro read
    cases external with
    | none =>
      rw [ofSpec, Option.isSome_none, Bool.and_false] at read
      obtain ⟨_, checked, same⟩ := bind_eq_ok.mp read
      cases same
      exact ⟨rfl, checkNumber_eq_ok.mp checked, nofun, fun _ => rfl⟩
    | some number =>
      cases isInternalOnly with
      | true => cases read
      | false =>
        obtain ⟨_, checked, read⟩ := bind_eq_ok.mp read
        obtain ⟨_, alsoChecked, same⟩ := bind_eq_ok.mp read
        cases same
        refine ⟨rfl, checkNumber_eq_ok.mp checked, ?_, nofun⟩
        rintro _ ⟨⟩
        exact checkNumber_eq_ok.mp alsoChecked
  · rintro ⟨rfl, sound⟩
    have checked : checkNumber "internal port" internal = .ok () :=
      checkNumber_eq_ok.mpr sound.internal
    cases external with
    | none => simp [ofSpec, checked, bind, Except.bind, pure, Except.pure]
    | some number =>
      have alsoChecked : checkNumber "external port" number = .ok () :=
        checkNumber_eq_ok.mpr (sound.external number rfl)
      have published : isInternalOnly = false := by
        simpa using mt sound.internalOnly
      simp [ofSpec, checked, alsoChecked, published, bind, Except.bind, pure, Except.pure]

/-- Ports for other services only are told apart by their numbers. -/
theorem Sound.eq_of_internal {first second : PortMapping} (one : first.Sound) (two : second.Sound)
    (firstOnly : first.isInternalOnly = true) (secondOnly : second.isInternalOnly = true)
    (same : first.internal = second.internal) : first = second := by
  have unpublished : first.external = second.external :=
    (one.internalOnly firstOnly).trans (two.internalOnly secondOnly).symm
  cases first
  cases second
  simp_all

/-- A port has no number on the host exactly if it is for other services only. -/
theorem hostPort_eq_none {port : PortMapping} :
    port.hostPort = none ↔ port.isInternalOnly = true := by
  simp [hostPort]

end PortMapping

namespace Service

/-! ### Adding a port -/

/-- What adding a port does: nothing if it is there, a refusal if its number on the host is taken by
another port, and otherwise it appends the port. -/
structure AddsPort (service : Service) (port : PortMapping) : Prop where
  again : port ∈ service.ports → (addPort port).apply service = (.ok (), service)
  refused : ∀ fault left, (addPort port).apply service = (.error fault, left) ↔
    left = service ∧ port ∉ service.ports ∧ ∃ number, port.hostPort = some number ∧
      fault = .duplicate .hostPort (toString number) ∧
      ∃ other ∈ service.ports, other.hostPort = some number
  added : port ∉ service.ports →
    (∀ number, port.hostPort = some number →
      ∀ other ∈ service.ports, other.hostPort ≠ some number) →
    (addPort port).apply service = (.ok (), { service with ports := service.ports ++ [port] })

theorem addPort_apply (port : PortMapping) (service : Service) :
    (addPort port).apply service =
      if port ∈ service.ports then (.ok (), service)
      else match port.hostPort with
        | none => (.ok (), { service with ports := service.ports ++ [port] })
        | some number =>
          if ∃ other ∈ service.ports, other.hostPort = some number then
            (.error (.duplicate .hostPort (toString number)), service)
          else (.ok (), { service with ports := service.ports ++ [port] }) := by
  unfold addPort
  by_cases there : port ∈ service.ports
  · simp [there]
  · cases port.hostPort with
    | none => simp [there]
    | some number =>
      by_cases taken : ∃ other ∈ service.ports, other.hostPort = some number
      · simp [there, taken]
      · simp [there, taken]

/-- **Adding a port has three ends.** -/
theorem addPort_adds (service : Service) (port : PortMapping) : service.AddsPort port := by
  have applied := addPort_apply port service
  refine ⟨fun there => ?again, fun fault left => ?refused, fun new free => ?added⟩
  case again => rw [applied, if_pos there]
  case added =>
    rw [applied, if_neg new]
    cases host : port.hostPort with
    | none => rfl
    | some number =>
      exact if_neg fun taken => taken.elim fun other there => free number host other there.1 there.2
  case refused =>
    rw [applied]
    by_cases there : port ∈ service.ports
    · simp [there]
    · cases host : port.hostPort with
      | none => simp [there]
      | some number =>
        by_cases taken : ∃ other ∈ service.ports, other.hostPort = some number
        · simp only [if_neg there, if_pos taken, Prod.mk.injEq, Except.error.injEq]
          constructor
          · rintro ⟨rfl, rfl⟩
            exact ⟨rfl, there, number, rfl, rfl, taken⟩
          · rintro ⟨rfl, _, _, ⟨⟩, rfl, _⟩
            exact ⟨rfl, rfl⟩
        · simp only [if_neg there, if_neg taken]
          constructor
          · nofun
          · rintro ⟨_, _, _, ⟨⟩, _, other⟩
            exact absurd other taken

/-! ### Services whose ports come from definitions -/

/-- Reads the definition of a port and adds the port. -/
def offerPort (spec : PortMapping.Spec) : Edit Service Unit := do
  addPort (← PortMapping.ofSpec spec)

/-- The setting is a port. -/
def Setting.isPort : Setting → Bool
  | .port _ => true
  | _ => false

/-- Definitions of ports that are read and added, and all calls that concern no ports, with whatever
lookup. -/
def PortedCalls (edit : Edit Service Unit) : Prop :=
  (∃ spec, edit = offerPort spec) ∨
    ∃ lookup setting, setting.isPort = false ∧ edit = Setting.edit lookup setting

/-- The service was made, empty or from a definition, and then changed by such calls, accepted or
refused. -/
def Ported (service : Service) : Prop :=
  Made create PortedCalls service ∨
    ∃ spec lookup, Made (ofSpec · spec lookup) PortedCalls service

theorem offerPort_of_ofSpec {spec : PortMapping.Spec} {port : PortMapping}
    (read : PortMapping.ofSpec spec = .ok port) : offerPort spec = addPort port := by
  rw [offerPort, read]
  rfl

theorem Ported.made {service : Service} (ported : service.Ported) :
    Made create PortedCalls service := by
  rcases ported with made | ⟨spec, lookup, made⟩
  · exact made
  refine made.of_made fun name start created => ?_
  have through : (applySpec spec lookup).Through PortedCalls := by
    refine applySpec_through_made (fun setting made => ?_) spec
    cases setting with
    | port given =>
      obtain ⟨spec, read⟩ := made
      exact .inl ⟨spec, (offerPort_of_ofSpec read).symm⟩
    | _ => exact .inr ⟨lookup, _, rfl, rfl⟩
  obtain ⟨empty, made, leads⟩ := through.of_created created
  exact ⟨name, empty, made, leads⟩

theorem PortedCalls.through {edit : Edit Service Unit} (call : PortedCalls edit) :
    edit.Through AnyCalls := by
  rcases call with ⟨spec, rfl⟩ | ⟨lookup, setting, _, rfl⟩
  · exact .lift_bind _ fun port => .of_move ⟨.everything, .port port, trivial, rfl⟩
  · exact .of_move ⟨lookup, setting, trivial, rfl⟩

theorem Ported.built {service : Service} (ported : service.Ported) : service.Built := by
  obtain ⟨name, start, created, leads⟩ := ported.made
  exact ⟨name, start, created, leads.through fun _ => PortedCalls.through⟩

/-- What reading and adding some definitions of ports in a row makes of a service with an image. -/
def offered (start : Service) (image : String) (specs : List PortMapping.Spec) : Service :=
  Edit.run (setImage image :: specs.map offerPort) start

theorem offered_ported {name : String} {start : Service} (created : create name = .ok start)
    (image : String) (specs : List PortMapping.Spec) : (start.offered image specs).Ported := by
  refine .inl ⟨name, start, created, .run (fun edit member => ?_) start⟩
  rcases List.mem_cons.mp member with rfl | offer
  · exact .inr ⟨.everything, .image image, rfl, rfl⟩
  · obtain ⟨spec, _, rfl⟩ := List.mem_map.mp offer
    exact .inl ⟨spec, rfl⟩

/-- What holds of the ports of a service: each was read from a definition, no two have the same
number on the host, and no two that are for other services only have the same number. -/
structure PortsSound (service : Service) : Prop where
  each : ∀ port ∈ service.ports, port.Sound
  hosts : (service.ports.filterMap PortMapping.hostPort).Nodup
  internals : ((service.ports.filter PortMapping.isInternalOnly).map PortMapping.internal).Nodup

/-- **A port that is appended keeps the ports sound**: it is not there yet, and its number on the
host is free. -/
theorem PortsSound.append {service : Service} {port : PortMapping} (sound : service.PortsSound)
    (read : port.Sound) (new : port ∉ service.ports)
    (free : ∀ number, port.hostPort = some number →
      ∀ other ∈ service.ports, other.hostPort ≠ some number) :
    PortsSound { service with ports := service.ports ++ [port] } := by
  refine ⟨?each, ?hosts, ?internals⟩
  case each => exact List.forall_mem_append.mpr ⟨sound.each, List.forall_mem_singleton.mpr read⟩
  case hosts =>
    rw [List.filterMap_append]
    refine sound.hosts.append ?_ fun number before after => ?_
    · cases host : port.hostPort <;> simp [host]
    · obtain ⟨other, there, taken⟩ := List.mem_filterMap.mp before
      have host : port.hostPort = some number := by simpa using after
      exact free number host other there taken
  case internals =>
    rw [List.filter_append, List.map_append]
    refine sound.internals.append ?_ fun number before after => ?_
    · cases only : port.isInternalOnly <;> simp [only]
    · obtain ⟨other, member, same⟩ := List.mem_map.mp before
      obtain ⟨there, otherOnly⟩ := List.mem_filter.mp member
      obtain ⟨only, rfl⟩ : port.isInternalOnly = true ∧ port.internal = number := by
        simpa [List.filter_cons] using after
      obtain rfl := (sound.each other there).eq_of_internal read otherOnly only same
      exact new there

/-- **A definition that is read and added keeps the ports sound**, refused or not. -/
theorem PortsSound.offer {service : Service} (sound : service.PortsSound)
    (spec : PortMapping.Spec) : ((offerPort spec).apply service).2.PortsSound := by
  cases read : PortMapping.ofSpec spec with
  | error fault =>
    rw [offerPort, read]
    exact sound
  | ok port =>
    rw [offerPort_of_ofSpec read]
    have adds := addPort_adds service port
    by_cases there : port ∈ service.ports
    · rw [adds.again there]
      exact sound
    by_cases taken : ∃ number, port.hostPort = some number ∧
        ∃ other ∈ service.ports, other.hostPort = some number
    · obtain ⟨number, host, other⟩ := taken
      rw [(adds.refused _ service).mpr ⟨rfl, there, number, host, rfl, other⟩]
      exact sound
    · have free : ∀ number, port.hostPort = some number →
          ∀ other ∈ service.ports, other.hostPort ≠ some number :=
        fun number host other member same => taken ⟨number, host, other, member, same⟩
      rw [adds.added there free]
      exact sound.append (PortMapping.ofSpec_eq_ok.mp read).2 there free

/-- **The ports of a service are sound**, whatever was called on it. -/
theorem Ported.portsSound {service : Service} (ported : service.Ported) : service.PortsSound := by
  obtain ⟨_, start, created, leads⟩ := ported.made
  refine leads.keeps PortsSound (fun edit call service here => ?step) ?start
  case start =>
    obtain ⟨_, _, same⟩ := bind_eq_ok.mp created
    cases same
    exact ⟨nofun, List.nodup_nil, List.nodup_nil⟩
  case step =>
    rcases call with ⟨spec, rfl⟩ | ⟨lookup, setting, other, rfl⟩
    · exact here.offer spec
    · refine (setting_assigns setting).left PortsSound here fun _ => ?_
      cases setting with
      | port => cases other
      | _ => exact { here with }

end Service

/-! ### Ports in the manifest -/

namespace PortMapping

/-- What the manifest says of a port: its number on the host and its own, or its own alone if the
port is for other services only. -/
def line (port : PortMapping) : String :=
  match port.hostPort with
  | some host => toString host ++ ":" ++ toString port.internal
  | none => toString port.internal

theorem line_of_hostPort {port : PortMapping} {host : Nat} (published : port.hostPort = some host) :
    port.line = toString host ++ ":" ++ toString port.internal := by
  rw [line, published]

theorem line_of_isInternalOnly {port : PortMapping} (only : port.isInternalOnly = true) :
    port.line = toString port.internal := by
  rw [line, hostPort_eq_none.mpr only]

theorem colon_notMem (number : Nat) : ':' ∉ (toString number).toList := fun member =>
  absurd (Yaml.Reading.isDigit_of_mem_toDigits (Yaml.Reading.toList_toString number ▸ member))
    (by decide)

theorem toString_injective : Function.Injective (toString : Nat → String) := by
  intro first second same
  have digits : Nat.toDigits 10 first = Nat.toDigits 10 second := by
    rw [← Yaml.Reading.toList_toString, ← Yaml.Reading.toList_toString, same]
  rw [← Nat.ofDigitChars_ten_toDigits (n := first), digits, Nat.ofDigitChars_ten_toDigits]

/-- Published ports with the same line have the same number on the host. -/
theorem hostPort_eq_of_line {first second : PortMapping} {one two : Nat}
    (firstHost : first.hostPort = some one) (secondHost : second.hostPort = some two)
    (same : first.line = second.line) : one = two := by
  rw [line_of_hostPort firstHost, line_of_hostPort secondHost] at same
  have chars := congrArg String.toList same
  simp only [String.toList_append, List.append_assoc] at chars
  have hosts := (List.append_cons_inj_of_notMem (colon_notMem one) (colon_notMem first.internal)).mp
    chars
  exact toString_injective (String.toList_inj.mp hosts.1)

theorem exists_hostPort {port : PortMapping} (published : port.isInternalOnly = false) :
    ∃ host, port.hostPort = some host := by simp [hostPort, published]

/-- A published port and one for other services only differ in their lines: one has a colon. -/
theorem line_ne {first second : PortMapping} (published : first.isInternalOnly = false)
    (only : second.isInternalOnly = true) : first.line ≠ second.line := by
  intro same
  obtain ⟨host, hostPort⟩ := exists_hostPort published
  refine colon_notMem second.internal ?_
  rw [← line_of_isInternalOnly only, ← same, line_of_hostPort hostPort]
  simp

end PortMapping

namespace Service

/-- The ports of a service as the manifest lists them: the published ones and those for other
services only, each by its line and in the order in which they were added, and every port exactly
once in exactly one of the lists. -/
structure ListsPorts (service : Service) (published exposed : List String) : Prop where
  publishedLines :
    published = (service.ports.filter fun port => !port.isInternalOnly).map PortMapping.line
  exposedLines : exposed = (service.ports.filter PortMapping.isInternalOnly).map PortMapping.line
  once : ∀ port ∈ service.ports,
    if port.isInternalOnly then exposed.count port.line = 1 ∧ port.line ∉ published
    else published.count port.line = 1 ∧ port.line ∉ exposed

namespace PortsSound

variable {service : Service} (sound : service.PortsSound)

include sound

theorem nodup_published :
    ((service.ports.filter fun port => !port.isInternalOnly).map PortMapping.line).Nodup := by
  have hosts := sound.hosts
  rw [List.Nodup, List.pairwise_filterMap] at hosts
  rw [List.Nodup, List.pairwise_map, List.pairwise_filter]
  refine hosts.imp fun apart published alsoPublished same => ?_
  obtain ⟨one, firstHost⟩ := PortMapping.exists_hostPort (by simpa using published)
  obtain ⟨two, secondHost⟩ := PortMapping.exists_hostPort (by simpa using alsoPublished)
  exact apart one firstHost two secondHost
    (PortMapping.hostPort_eq_of_line firstHost secondHost same)

theorem nodup_exposed :
    ((service.ports.filter PortMapping.isInternalOnly).map PortMapping.line).Nodup := by
  have internals := sound.internals
  rw [List.Nodup, List.pairwise_map, List.pairwise_filter] at internals ⊢
  refine internals.imp fun apart only alsoOnly same => apart only alsoOnly ?_
  rw [PortMapping.line_of_isInternalOnly only, PortMapping.line_of_isInternalOnly alsoOnly] at same
  exact PortMapping.toString_injective same

/-- **Every port is listed exactly once**, in the list that is for it. -/
theorem listsPorts : service.ListsPorts
    ((service.ports.filter fun port => !port.isInternalOnly).map PortMapping.line)
    ((service.ports.filter PortMapping.isInternalOnly).map PortMapping.line) := by
  refine ⟨rfl, rfl, fun port there => ?_⟩
  cases only : port.isInternalOnly with
  | true =>
    refine ⟨List.count_eq_one_of_mem sound.nodup_exposed ?listed, fun other => ?apart⟩
    case listed => exact List.mem_map_of_mem (List.mem_filter.mpr ⟨there, only⟩)
    case apart =>
      obtain ⟨first, member, same⟩ := List.mem_map.mp other
      have published : first.isInternalOnly = false := by simpa using (List.mem_filter.mp member).2
      exact PortMapping.line_ne published only same
  | false =>
    refine ⟨List.count_eq_one_of_mem sound.nodup_published ?listed, fun other => ?apart⟩
    case listed => exact List.mem_map_of_mem (List.mem_filter.mpr ⟨there, by simpa using only⟩)
    case apart =>
      obtain ⟨second, member, same⟩ := List.mem_map.mp other
      exact PortMapping.line_ne only (List.mem_filter.mp member).2 same.symm

end PortsSound

/-- A document shows the ports of a service in two lists, each of which is left out exactly if it is
empty. -/
def ShowsPorts (service : Service) (document : Tree) : Prop :=
  ∃ published exposed, service.ListsPorts published exposed ∧
    document.at? ["services", service.name, "ports"] =
      (if published = [] then none else some (.sequence (published.map .text))) ∧
    document.at? ["services", service.name, "expose"] =
      if exposed = [] then none else some (.sequence (exposed.map .text))

end Service

theorem Manifest.showsPorts {stack : Stack} (sound : stack.Sound) {service : Service}
    (registered : service ∈ stack.services.toList) (ports : service.PortsSound) :
    service.ShowsPorts stack.tree := by
  refine ⟨_, _, ports.listsPorts, ?published, ?exposed⟩
  case published =>
    have lines : (service.ports.filter fun port => !port.isInternalOnly).map PortMapping.line =
        (service.ports.filter fun port => !port.isInternalOnly).map Manifest.portText := by
      refine List.map_congr_left fun port member => ?_
      have published : port.isInternalOnly = false := by
        simpa using (List.mem_filter.mp member).2
      simp [PortMapping.line, PortMapping.hostPort, published, Manifest.portText]
    rw [Stack.tree_field sound registered, lines, ← Tree.texts?_eq]
    exact Tree.get?_ofFields (by simp) (by simp)
  case exposed =>
    have lines : (service.ports.filter PortMapping.isInternalOnly).map PortMapping.line =
        (service.ports.filter PortMapping.isInternalOnly).map fun port =>
          toString port.internal :=
      List.map_congr_left fun port member =>
        PortMapping.line_of_isInternalOnly (List.mem_filter.mp member).2
    rw [Stack.tree_field sound registered, lines, ← Tree.texts?_eq]
    exact Tree.get?_ofFields (by simp) (by simp)

/-- **Ports, from definitions to the manifest.** Whatever definitions were read and added to a
service, and whatever else was called on it, its ports have numbers in range, no two have the same
number on the host, and no two for other services only have the same number. Adding a port has its
three ends. A manifest with the service lists every port exactly once. -/
theorem ports_listed {service : Service} (ported : service.Ported) :
    service.PortsSound ∧ (∀ port, service.AddsPort port) ∧
      ∀ (stack : Stack) (text : String), stack.Reached → service ∈ stack.services.toList →
        (Stack.renderManifest.apply stack).1 = .ok text →
        ∃ document, read? text = some document ∧ service.ShowsPorts document := by
  have ports := ported.portsSound
  refine ⟨ports, service.addPort_adds, fun stack text reached registered rendered => ?_⟩
  exact ⟨stack.tree, Manifest.read?_rendered reached.sound rendered,
    Manifest.showsPorts reached.sound registered ports⟩

/-- Definitions of ports. The second is there already, the third wants the number of the first on
the host, and the last three are not read. -/
def PortMapping.mixedSpecs : List PortMapping.Spec :=
  [⟨80, none, false⟩, ⟨80, none, false⟩, ⟨8080, some 80, false⟩, ⟨80, some 8080, false⟩,
    ⟨80, none, true⟩, ⟨0, none, false⟩, ⟨80, some 65536, false⟩, ⟨90, some 90, true⟩]

theorem ports_listed_mixedSpecs :
    ∃ start web, ∃ webCreated : Service.create "web" = .ok web,
      Stack.create "shop" .everything = .ok start ∧
      let service := web.offered "nginx" PortMapping.mixedSpecs
      service.ports = [⟨80, none, false⟩, ⟨80, some 8080, false⟩, ⟨80, none, true⟩] ∧
      service.PortsSound ∧ (∀ port, service.AddsPort port) ∧
      let stack := start.run
        [.addService service (Service.offered_ported webCreated _ _).built]
      let text := String.join (["services:", "  web:", "    image: nginx", "    ports:",
        "      - \"80:80\"", "      - \"8080:80\"", "    expose:",
        "      - \"80\""].map (· ++ "\n"))
      (Stack.renderManifest.apply stack).1 = .ok text ∧
      ∃ document, read? text = some document ∧ service.ShowsPorts document := by
  have webCreated : Service.create "web" = .ok _ := rfl
  have created : Stack.create "shop" .everything = .ok _ := rfl
  have ported := Service.offered_ported webCreated "nginx" PortMapping.mixedSpecs
  have listed := ports_listed ported
  have reached : Stack.Reached _ :=
    ⟨_, _, _, [.addService _ ported.built], created, rfl⟩
  refine ⟨_, _, webCreated, created, rfl, listed.1, listed.2.1, ?rendered,
    listed.2.2 _ _ reached List.mem_cons_self ?rendered⟩
  case rendered => rfl

end ContainerStack
