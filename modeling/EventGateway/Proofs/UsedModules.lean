import EventGateway.Project.Source
import EventGateway.Proofs.Pins

/-!
# Imports are what a descriptor uses

A descriptor refers to modules of the engine by the references of its triggers, actions and
services, and its imports say which modules the engine loads.  The two are emitted at different
places: a server imports its own modules where its trigger and its services are made, and the
microgateways import theirs at the end of a pass.  A pass uses one set of modules (`passModules`),
which is both what its imports stand for and what its triggers and resources refer to.

## Main statements

* `mem_importKeys_of_pass`, `mem_references_of_pass` — both sides of a pass are `passModules`.
* `imports_of_compile` — the keys of the imports of a compilation are distinct, they are the modules
  that the descriptor refers to, and the program that holds the descriptor loads exactly these.
-/

namespace EventGateway

open AsyncApi
open Flogo (Action App Handler Resource Service Trigger)

/-! ## What a descriptor refers to -/

/-- The modules that triggers and resources refer to: those of the triggers, of the actions of their
handlers, and of the services of the resources. -/
def references (triggers : List Trigger) (resources : List Resource) : List String :=
  triggers.map Trigger.ref ++
    ((triggers.flatMap Trigger.handlers).flatMap Handler.actions).map Action.ref ++
    (resources.flatMap fun r => r.data.services).map Service.ref

/-- The modules that an application refers to. -/
def Flogo.App.references (app : App) : List String :=
  EventGateway.references app.triggers app.resources

/-- A module is referred to by a trigger, by an action or by a service. -/
theorem mem_references {triggers : List Trigger} {resources : List Resource} {m : String} :
    m ∈ references triggers resources ↔
      (∃ t ∈ triggers, t.ref = m ∨ ∃ h ∈ t.handlers, ∃ a ∈ h.actions, a.ref = m) ∨
        ∃ r ∈ resources, ∃ s ∈ r.data.services, s.ref = m := by
  simp only [references, List.mem_append, List.mem_map, List.mem_flatMap]
  constructor
  · rintro ((⟨t, ht, eq⟩ | ⟨a, ⟨h, ⟨t, ht, hh⟩, ha⟩, eq⟩) | ⟨s, ⟨r, hr, hs⟩, eq⟩)
    · exact .inl ⟨t, ht, .inl eq⟩
    · exact .inl ⟨t, ht, .inr ⟨h, hh, a, ha, eq⟩⟩
    · exact .inr ⟨r, hr, s, hs, eq⟩
  · rintro (⟨t, ht, eq | ⟨h, hh, a, ha, eq⟩⟩ | ⟨r, hr, s, hs, eq⟩)
    · exact .inl (.inl ⟨t, ht, eq⟩)
    · exact .inl (.inr ⟨a, ⟨h, ⟨t, ht, hh⟩, ha⟩, eq⟩)
    · exact .inr ⟨s, ⟨r, hr, hs⟩, eq⟩

/-- What parts of an application refer to is what each part refers to. -/
theorem mem_references_flatMap {α : Type} {parts : List α} {triggers : α → List Trigger}
    {resources : α → List Resource} {m : String} :
    m ∈ references (parts.flatMap triggers) (parts.flatMap resources) ↔
      ∃ part ∈ parts, m ∈ references (triggers part) (resources part) := by
  simp only [mem_references, List.mem_flatMap]
  constructor
  · rintro (⟨t, ⟨part, hpart, ht⟩, eq⟩ | ⟨r, ⟨part, hpart, hr⟩, eq⟩)
    · exact ⟨part, hpart, .inl ⟨t, ht, eq⟩⟩
    · exact ⟨part, hpart, .inr ⟨r, hr, eq⟩⟩
  · rintro ⟨part, hpart, ⟨t, ht, eq⟩ | ⟨r, hr, eq⟩⟩
    · exact .inl ⟨t, ⟨part, hpart, ht⟩, eq⟩
    · exact .inr ⟨r, ⟨part, hpart, hr⟩, eq⟩

/-- What two groups of triggers and resources refer to is what each group refers to. -/
theorem mem_references_append {triggers triggers' : List Trigger}
    {resources resources' : List Resource} {m : String} :
    m ∈ references (triggers ++ triggers') (resources ++ resources') ↔
      m ∈ references triggers resources ∨ m ∈ references triggers' resources' := by
  simp only [mem_references, List.mem_append, or_and_right, exists_or]
  exact or_or_or_comm

/-! ## What a pass uses -/

/-- The modules that a protocol needs to receive messages. -/
def inboundModules (p : Protocol) : List String :=
  [p.trigger.reference, Gateway.microgatewayRef, Gateway.logRef, Gateway.methodInvokerRef]

/-- The modules that a protocol needs to send messages. -/
def outboundModules (p : Protocol) : List String :=
  p.activity.toList.map ModulePath.reference ++
    [Gateway.restTriggerRef, Gateway.microgatewayRef, Gateway.logRef]

/-- The modules that a pass uses. -/
def passModules (d : Document) (role : Role) (p : Protocol) : List String :=
  (if receives d role p then inboundModules p else []) ++
    if sends d role p then outboundModules p else []

/-! ## Imports of a pass -/

/-- A version that the key of an import forgets without a trace. -/
abbrev CleanVersion (v : String) : Prop :=
  ¬ [':', '/'] <:+: v.toList

/-- No version that the catalog names or that a server asks for contains `:/`. -/
structure CleanVersions (d : Document) (o : Options) : Prop where
  catalog : ∀ entry ∈ o.catalog.protocols.entries,
    (∀ v ∈ entry.2.trigger, CleanVersion v) ∧ ∀ v ∈ entry.2.activity, CleanVersion v
  servers : ∀ x ∈ d.servers.servers, ∀ extension ∈ ["x-trigger-version", "x-activity-version"],
    ∀ v ∈ (x.2.extensions.find? extension).bind Value.text?, CleanVersion v

section Imports

variable {d : Document} {o : Options} {p : Protocol}

/-- The versions of the catalog are clean. -/
theorem CleanVersions.catalogVersions (h : CleanVersions d o) {protocol v : String}
    (named : o.catalog.triggerVersion? protocol = some v ∨
      o.catalog.activityVersion? protocol = some v) : CleanVersion v := by
  rcases named with named | named
  · obtain ⟨versions, found, eq⟩ := Option.bind_eq_some_iff.1 named
    exact (h.catalog _ (Dict.mem_of_find? found)).1 v eq
  · obtain ⟨versions, found, eq⟩ := Option.bind_eq_some_iff.1 named
    exact (h.catalog _ (Dict.mem_of_find? found)).2 v eq

/-- The version at which a module is imported is clean, whoever names it. -/
theorem CleanVersions.effective (h : CleanVersions d o) {x : PlacedServer}
    (mem : x ∈ protocolServers p d) {extension : String}
    (known : extension ∈ ["x-trigger-version", "x-activity-version"]) {given : Option String}
    (clean : ∀ v ∈ given, CleanVersion v) :
    ∀ v ∈ effectiveVersion x.1.2 extension given, CleanVersion v := by
  intro v eq
  rcases Option.or_eq_some_iff.1 eq with asked | ⟨-, named⟩
  · have listed : x.1 ∈ d.servers.servers :=
      List.fst_mem_of_mem_zipIdx (List.mem_of_mem_filter mem)
    exact h.servers x.1 listed extension known v asked
  · exact clean v named

/-- An import at a clean version, or without one, stands for the module. -/
theorem ModulePath.key_importAt {m : ModulePath} (plain : m.Plain) {version : Option String}
    (clean : ∀ v ∈ version, CleanVersion v) : Import.key (m.importAt version) = m.reference := by
  cases version with
  | none => exact key_reference plain
  | some v => exact key_pinned plain (clean v rfl)

/-- The modules that microgateways refer to. -/
def gatewayModules : List String :=
  [Gateway.microgatewayRef, Gateway.logRef, Gateway.methodInvokerRef, Gateway.restTriggerRef]

/-- The modules of a gateway are known. -/
theorem mem_gatewayModules {role : Role} {m : String} (mem : m ∈ gatewayImports d role p) :
    m ∈ gatewayModules := by
  rw [gatewayImports, List.mem_append] at mem
  rcases mem with mem | mem <;> split at mem <;> grind [gatewayModules]

/-- The references of microgateways are their own keys. -/
theorem key_gatewayRef : ∀ m ∈ gatewayModules, Import.key m = m := by
  decide +kernel

/-- The modules of a gateway are imported without a version. -/
theorem keys_gatewayImports (role : Role) :
    (gatewayImports d role p).map Import.key = gatewayImports d role p := by
  suffices own : ∀ m ∈ gatewayImports d role p, Import.key m = id m by
    rw [List.map_congr_left own, List.map_id]
  exact fun m mem => key_gatewayRef m (mem_gatewayModules mem)

/-- The version at which a server imports the trigger module is clean. -/
theorem triggerVersion_clean (h : (pass o p d).result = .ok ()) (clean : CleanVersions d o)
    {x : PlacedServer} (mem : x ∈ protocolServers p d) :
    ∀ v ∈ (endpointOf p d x).extensions.triggerVersion.or (o.catalog.triggerVersion? p.name),
      CleanVersion v := by
  rw [(versions_endpointOf h mem _).1]
  exact clean.effective mem (by simp) fun v named => clean.catalogVersions (.inl named)

/-- The version at which a server imports the activity module is clean. -/
theorem activityVersion_clean (h : (pass o p d).result = .ok ()) (clean : CleanVersions d o)
    {x : PlacedServer} (mem : x ∈ protocolServers p d) :
    ∀ v ∈ (endpointOf p d x).extensions.activityVersion.or (o.catalog.activityVersion? p.name),
      CleanVersion v := by
  rw [(versions_endpointOf h mem _).2]
  exact clean.effective mem (by simp) fun v named => clean.catalogVersions (.inr named)

/-- The imports for a server stand for the modules that speak its protocol. -/
theorem keys_placedImports (h : (pass o p d).result = .ok ()) (clean : CleanVersions d o)
    {x : PlacedServer} (mem : x ∈ protocolServers p d) :
    (placedImports d o p x).map Import.key =
      (if receives d o.role p then [p.trigger.reference] else []) ++
        if sends d o.role p then p.activity.toList.map ModulePath.reference else [] := by
  have trigger : Import.key (triggerImport o.catalog p (endpointOf p d x).extensions) =
      p.trigger.reference :=
    ModulePath.key_importAt (plain_of_mem_modules (trigger_mem_modules p))
      (triggerVersion_clean h clean mem)
  have activity : ∀ m ∈ p.activity,
      Import.key (activityImport o.catalog p m (endpointOf p d x).extensions) = m.reference :=
    fun m hm => ModulePath.key_importAt (plain_of_mem_modules (activity_mem_modules hm))
      (activityVersion_clean h clean mem)
  rw [placedImports, List.map_append]
  congr 1
  · split
    · rw [List.map_singleton, trigger]
    · rfl
  · split
    · rw [List.map_map]
      refine List.map_congr_left fun m hm => ?_
      exact activity m (Option.mem_toList.1 hm)
    · rfl

/-- **The imports of a pass stand for the modules that it uses.** -/
theorem mem_importKeys_of_pass (h : (pass o p d).result = .ok ()) (clean : CleanVersions d o)
    (m : String) :
    m ∈ ((pass o p d).items Emission.importing?).map Import.key ↔ m ∈ passModules d o.role p := by
  have servers : ((protocolServers p d).flatMap (placedImports d o p)).map Import.key =
      (protocolServers p d).flatMap fun _ =>
        (if receives d o.role p then [p.trigger.reference] else []) ++
          if sends d o.role p then p.activity.toList.map ModulePath.reference else [] := by
    rw [List.map_flatMap]
    exact List.flatMap_congr fun x mem => keys_placedImports h clean mem
  -- A protocol that receives or sends has a server, so its own modules are imported at least once.
  have some : (receives d o.role p || sends d o.role p) = true →
      ∃ x, x ∈ protocolServers p d := by
    intro able
    refine List.exists_mem_of_ne_nil _ fun none => ?_
    simp [receives, sends, none] at able
  rw [imports_of_pass h, List.map_append, servers, keys_gatewayImports, List.mem_append,
    List.mem_flatMap, gatewayImports, passModules, inboundModules, outboundModules]
  cases inbound : receives d o.role p <;> cases outbound : sends d o.role p
  case false.false => simp
  all_goals
    obtain ⟨x, mem⟩ := some (by simp [inbound, outbound])
    have anyServer : ∀ P : Prop, (∃ a ∈ protocolServers p d, P) ↔ P := by
      intro P
      constructor
      · rintro ⟨-, -, hP⟩
        exact hP
      · intro hP
        exact ⟨x, mem, hP⟩
    rw [anyServer]
    grind

end Imports

/-! ## References of a pass -/

section References

variable {d : Document} {o : Options} {p : Protocol}

/-- Every handler starts a microgateway and nothing else. -/
theorem ref_of_mem_placedHandlers {role : Role} {x : PlacedServer} {h : Handler}
    (mem : h ∈ placedHandlers d role p x) :
    ∀ m, (∃ a ∈ h.actions, a.ref = m) ↔ m = Gateway.microgatewayRef := by
  obtain ⟨⟨name, c, operation⟩, -, rfl⟩ := List.mem_map.1 mem
  intro m
  simp [operationHandler, Binding.handler, Gateway.start, eq_comm]

/-- The triggers of servers and the microgateway behind them refer to the modules for receiving. -/
theorem mem_references_inbound (able : receives d o.role p = true) (m : String) :
    m ∈ references ((protocolServers p d).map (placedTrigger d o.role p)) [Gateway.inbound p.name] ↔
      m ∈ inboundModules p := by
  obtain ⟨servers, operations⟩ := Bool.and_eq_true_iff.1 able
  rw [Bool.not_eq_true'] at servers operations
  obtain ⟨x, mem⟩ := List.exists_mem_of_ne_nil _ (List.isEmpty_eq_false_iff.1 servers)
  -- Some server has some handler, which is what refers to the module that runs resources.
  have handler : ∃ h, h ∈ placedHandlers d o.role p x := by
    refine List.exists_mem_of_ne_nil _ fun none => ?_
    rw [← List.isEmpty_iff, placedHandlers, isEmpty_serverHandlers, operations] at none
    cases none
  have services : ∀ m, (∃ s ∈ (Gateway.inbound p.name).data.services, s.ref = m) ↔
      m = Gateway.logRef ∨ m = Gateway.methodInvokerRef := by
    intro m
    simp [Gateway.inbound, Gateway.logService, Gateway.methodInvokerService, eq_comm]
  rw [mem_references, inboundModules]
  simp only [List.mem_map, exists_eq_left, services, List.mem_cons, List.not_mem_nil, or_false]
  constructor
  · rintro (⟨-, ⟨y, hy, rfl⟩, eq | ⟨h, hh, action⟩⟩ | eq)
    · exact .inl eq.symm
    · exact .inr (.inl ((ref_of_mem_placedHandlers hh m).1 action))
    · exact .inr (.inr eq)
  · rintro (rfl | rfl | eq)
    · exact .inl ⟨_, ⟨x, mem, rfl⟩, .inl rfl⟩
    · obtain ⟨h, hh⟩ := handler
      exact .inl ⟨_, ⟨x, mem, rfl⟩, .inr ⟨h, hh, (ref_of_mem_placedHandlers hh _).2 rfl⟩⟩
    · exact .inr eq

/-- The services of a server that sends refer to the activity module of the protocol. -/
theorem mem_refs_placedServices (able : sends d o.role p = true) (m : String) :
    (∃ s ∈ (protocolServers p d).flatMap (placedServices d o.role p), s.ref = m) ↔
      m ∈ p.activity.toList.map ModulePath.reference := by
  constructor
  · rintro ⟨s, mem, rfl⟩
    obtain ⟨x, -, mem⟩ := List.mem_flatMap.1 mem
    obtain ⟨activity, hactivity, mem⟩ := List.mem_flatMap.1 mem
    obtain ⟨⟨name, c, operation⟩, -, rfl⟩ := List.mem_map.1 mem
    exact List.mem_map_of_mem hactivity
  · intro mem
    obtain ⟨activity, hactivity, rfl⟩ := List.mem_map.1 mem
    obtain ⟨some, operations⟩ := Bool.and_eq_true_iff.1 able
    obtain ⟨servers, -⟩ := Bool.and_eq_true_iff.1 some
    rw [Bool.not_eq_true'] at servers operations
    obtain ⟨x, memServer⟩ := List.exists_mem_of_ne_nil _ (List.isEmpty_eq_false_iff.1 servers)
    obtain ⟨operation, memOperation⟩ :=
      List.exists_mem_of_ne_nil _ (List.isEmpty_eq_false_iff.1 operations)
    refine ⟨_, List.mem_flatMap.2 ⟨x, memServer, List.mem_flatMap.2 ⟨activity, hactivity,
      List.mem_map_of_mem memOperation⟩⟩, rfl⟩

/-- The endpoint for sending and the microgateway behind it refer to the modules for sending. -/
theorem mem_references_outbound (able : sends d o.role p = true) (m : String) :
    m ∈ references [Gateway.publishTrigger p.profile]
        [Gateway.outbound p.name ((protocolServers p d).flatMap (placedServices d o.role p))] ↔
      m ∈ outboundModules p := by
  have trigger : (∃ t ∈ [Gateway.publishTrigger p.profile],
      t.ref = m ∨ ∃ h ∈ t.handlers, ∃ a ∈ h.actions, a.ref = m) ↔
      m = Gateway.restTriggerRef ∨ m = Gateway.microgatewayRef := by
    simp [Gateway.publishTrigger, Gateway.start, eq_comm]
  have services : (∃ s ∈ (Gateway.outbound p.name
      ((protocolServers p d).flatMap (placedServices d o.role p))).data.services, s.ref = m) ↔
      m ∈ p.activity.toList.map ModulePath.reference ∨ m = Gateway.logRef := by
    rw [← mem_refs_placedServices able]
    simp only [Gateway.outbound, List.mem_append, List.mem_singleton, or_and_right, exists_or,
      exists_eq_left]
    exact or_congr_right eq_comm
  rw [mem_references, trigger, outboundModules]
  simp only [exists_eq_left, services, List.mem_append, List.mem_cons, List.not_mem_nil, or_false]
  grind

/-- **The triggers and resources of a pass refer to the modules that it uses.** -/
theorem mem_references_of_pass (h : (pass o p d).result = .ok ()) (m : String) :
    m ∈ references ((pass o p d).items Emission.trigger?) ((pass o p d).items Emission.resource?) ↔
      m ∈ passModules d o.role p := by
  rw [triggers_of_pass h, resources_of_pass h, mem_references_append, passModules, List.mem_append]
  have nothing : m ∈ references [] [] ↔ m ∈ ([] : List String) := Iff.rfl
  refine or_congr ?_ ?_
  · by_cases able : receives d o.role p = true
    · simp only [if_pos able]
      exact mem_references_inbound able m
    · simp only [if_neg able]
      exact nothing
  · by_cases able : sends d o.role p = true
    · simp only [if_pos able]
      exact mem_references_outbound able m
    · simp only [if_neg able]
      exact nothing

end References

/-! ## Compilations -/

/-- The start of a program that loads some modules besides those that every program needs. -/
def programHead (modules : List String) : String :=
  lines [
    "// Code generated by asyncapi-flogo. DO NOT EDIT.",
    "",
    "package main",
    "",
    "import (",
    "\t\"fmt\"",
    "\t\"os\"",
    "",
    "\t\"github.com/project-flogo/core/engine\""]
  ++ String.join (modules.map fun path => "\n\t_ \"" ++ path ++ "\"")
  ++ lines ["", ")"]

/-- The lines of a program behind its import declaration: the descriptor, and the function that runs
the engine on it. -/
def programTail (name descriptor : String) : List String := [
  "",
  "// Flogo descriptor of " ++ Project.interpreted name,
  "const descriptor = " ++ Project.raw descriptor,
  "",
  "func main() \x7b",
  "\tconfig, err := engine.LoadAppConfig(descriptor, false)",
  "\tif err != nil \x7b",
  "\t\tfmt.Fprintf(os.Stderr, \"failed to load app: %v\\n\", err)",
  "\t\tos.Exit(1)",
  "\t\x7d",
  "",
  "\te, err := engine.New(config)",
  "\tif err != nil \x7b",
  "\t\tfmt.Fprintf(os.Stderr, \"failed to create engine: %v\\n\", err)",
  "\t\tos.Exit(1)",
  "\t\x7d",
  "",
  "\tos.Exit(engine.RunEngine(e))",
  "\x7d"]

/-- The first two lines and the others. -/
theorem lines_cons_cons (first second : String) (texts : List String) :
    lines (first :: second :: texts) = lines [first, second] ++ lines texts := by
  simp [lines, String.append_assoc]

/-- The program that holds a descriptor loads the modules that its imports stand for. -/
theorem appSource_eq (c : Compilation) :
    c.appSource = programHead (c.app.imports.map Import.key) ++
      lines (programTail c.app.name c.descriptor) := by
  rw [Compilation.appSource, lines_cons_cons "" ")", programHead, List.map_map,
    ← String.append_assoc]
  rfl

/-- Whatever the descriptor, there is no import declaration but the first. -/
theorem programTail_imports_nothing (name descriptor : String) :
    ∀ line ∈ programTail name descriptor, ¬ "import".toList <+: line.toList := by
  simp [programTail]

/-- **Imports are exactly what the descriptor uses.**  Unless a version contains `:/`, no two
imports of a compilation have the same key, the keys are the modules that triggers, actions and
services refer to, and the program that holds the descriptor loads these modules and no others:
behind the import declaration for them it has fixed lines around the descriptor, none of which
starts another one. -/
theorem imports_of_compile {d : Document} {o : Options} {c : Compilation}
    (h : compile d o = .ok c) (clean : CleanVersions d o) :
    (c.app.imports.map Import.key).Nodup ∧
      (∀ m, m ∈ c.app.imports.map Import.key ↔ m ∈ c.app.references) ∧
      c.appSource = programHead (c.app.imports.map Import.key) ++
        lines (programTail c.app.name c.descriptor) ∧
      ∀ line ∈ programTail c.app.name c.descriptor, ¬ "import".toList <+: line.toList := by
  obtain ⟨all, -⟩ := compile_eq_ok_iff.1 h
  have collects := collects_of_compile h
  refine ⟨?_, fun m => ?_, appSource_eq c, programTail_imports_nothing _ _⟩
  · rw [collects.imports]
    exact nodup_keys_firstOfEach _ _ _
  -- The registry forgets which pass registered a key first, but not that one did.
  · rw [collects.imports, mem_keys_firstOfEach, App.references, collects.triggers,
      collects.resources, mem_references_flatMap, List.map_flatMap, List.mem_flatMap]
    simp only [List.not_mem_nil, not_false_eq_true, and_true]
    refine exists_congr fun p => and_congr_right fun _ => ?_
    rw [mem_importKeys_of_pass (all p) clean, mem_references_of_pass (all p)]

/-- Two protocols and a pinned version: the imports are those that are used, in the descriptor and
in the program. -/
theorem pinnedDocument_imports :
    ∃ c, compile pinnedDocument {} = .ok c ∧ CleanVersions pinnedDocument {} ∧
      "github.com/project-flogo/contrib/activity/rest@v4.5.6" ∈ c.app.imports ∧
      (c.app.imports.map Import.key).Nodup ∧
      (∀ m, m ∈ c.app.imports.map Import.key ↔ m ∈ c.app.references) ∧
      c.appSource = programHead (c.app.imports.map Import.key) ++
        lines (programTail c.app.name c.descriptor) := by
  obtain ⟨c, hc, -⟩ := compile_pinnedDocument
  have serving : firstServing pinnedDocument {} .http = some pinnedServer := rfl
  have pinned := activity_import_of_compile hc (p := .http) rfl serving (v := "v4.5.6") rfl
    (by decide)
  have kept := List.mem_of_mem_filter (pinned ▸ List.mem_singleton_self _)
  have clean : CleanVersions pinnedDocument {} := ⟨by decide +kernel, by decide +kernel⟩
  obtain ⟨nodup, used, source, -⟩ := imports_of_compile hc clean
  exact ⟨c, hc, clean, kept, nodup, used, source⟩

end EventGateway
