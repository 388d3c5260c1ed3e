import EventGateway.Proofs.Composition

/-!
# Descriptors are closed

A descriptor refers to its own parts by name: actions to resources, steps to services, and steps to
methods of the support code.  A pass emits references and what they refer to at different times, so
a context is not closed while a pass runs; it is closed again when the pass has ended.  Here the
parts of a whole pass are compared, and then those of all passes, whose names are kept apart by the
names of the protocols.

## Main statements

* `mem_uris_of_pass` — the actions of a pass name its own resources, each of them at least once.
* `closed_of_compile` — no reference dangles, no resource and no method is left over, and no
  identifier occurs twice.
-/

namespace EventGateway

open AsyncApi
open Flogo (App Handler Resource Step Trigger)

section Passes

variable {d : Document} {o : Options} {role : Role} {p : Protocol}

/-! ## Identifiers of a pass -/

/-- No two servers of a protocol have the same position. -/
theorem nodup_positions (p : Protocol) (d : Document) :
    ((protocolServers p d).map Prod.snd).Nodup := by
  have positions : (d.servers.servers.zipIdx.map Prod.snd).Nodup := by
    rw [List.zipIdx_map_snd]
    exact List.nodup_range'
  exact positions.sublist (List.filter_sublist.map Prod.snd)

/-- No two servers of a protocol have the same label. -/
theorem nodup_serverLabels (p : Protocol) (d : Document) :
    ((protocolServers p d).map fun x => serverLabel p x.2).Nodup := by
  have labels : ((protocolServers p d).map fun x => serverLabel p x.2) =
      ((protocolServers p d).map Prod.snd).map (serverLabel p) := by
    rw [List.map_map]
    rfl
  rw [labels]
  exact (nodup_positions p d).map fun i j same => (serverLabel_inj same).2

/-- **The triggers of a pass** have different identifiers: servers are numbered, and the name for
publishing ends with no digit. -/
theorem nodup_triggerIds_of_pass (h : (pass o p d).result = .ok ()) :
    (((pass o p d).items Emission.trigger?).map Trigger.id).Nodup := by
  rw [triggerIds_of_pass h]
  refine List.Nodup.append ?_ ?_ fun id mem mem' => ?_
  · split
    · exact nodup_serverLabels p d
    · exact List.nodup_nil
  · split <;> simp
  · split at mem
    · split at mem'
      · obtain ⟨x, -, rfl⟩ := List.mem_map.1 mem
        exact serverLabel_ne_publishName p p x.2 (List.mem_singleton.1 mem')
      · cases mem'
    · cases mem

/-- The identifier of a trigger begins with the name of its protocol. -/
theorem triggerId_eq_of_pass (h : (pass o p d).result = .ok ()) {id : String}
    (mem : id ∈ ((pass o p d).items Emission.trigger?).map Trigger.id) :
    ∃ rest, id = "" ++ (p.name ++ rest) := by
  rw [triggerIds_of_pass h] at mem
  rcases List.mem_append.1 mem with mem | mem
  · split at mem
    · obtain ⟨x, -, rfl⟩ := List.mem_map.1 mem
      exact ⟨toString x.2, String.empty_append.symm⟩
    · cases mem
  · split at mem
    · obtain rfl := List.mem_singleton.1 mem
      exact ⟨"Publish", String.empty_append.symm⟩
    · cases mem

/-- The two resources of a protocol have different identifiers. -/
theorem resourceId_ne (p : Protocol) :
    Gateway.resourceId p.name ≠ Gateway.resourceId (Gateway.publishName p.name) := by
  cases p <;> decide

/-- **The resources of a pass** have different identifiers. -/
theorem nodup_resourceIds_of_pass (h : (pass o p d).result = .ok ()) :
    (((pass o p d).items Emission.resource?).map Resource.id).Nodup := by
  rw [resourceIds_of_pass h]
  split <;> split <;> simp [resourceId_ne p]

/-- The identifier of a resource names its protocol. -/
theorem resourceId_eq_of_pass (h : (pass o p d).result = .ok ()) {id : String}
    (mem : id ∈ ((pass o p d).items Emission.resource?).map Resource.id) :
    ∃ rest, id = "microgateway:" ++ (p.name ++ rest) := by
  rw [resourceIds_of_pass h] at mem
  rcases List.mem_append.1 mem with mem | mem
  · split at mem
    · obtain rfl := List.mem_singleton.1 mem
      exact ⟨"", by rw [String.append_empty]; rfl⟩
    · cases mem
  · split at mem
    · obtain rfl := List.mem_singleton.1 mem
      exact ⟨"Publish", rfl⟩
    · cases mem

/-! ## References of a pass -/

/-- What the actions of some triggers start. -/
def uris (triggers : List Trigger) : List (Option Value) :=
  ((triggers.flatMap Trigger.handlers).flatMap Handler.actions).map fun a => a.settings.find? "uri"

/-- The resources that triggers point at, trigger by trigger. -/
theorem uris_append (triggers triggers' : List Trigger) :
    uris (triggers ++ triggers') = uris triggers ++ uris triggers' := by
  simp only [uris, List.flatMap_append, List.map_append]

/-- An action points at the resource that it starts. -/
theorem find?_uri_start (resource : String) (input : Flogo.Settings) :
    (Gateway.start resource input).settings.find? "uri" = some (.text resource) := by
  simp [Gateway.start]

/-- The triggers of servers start the microgateway of their protocol. -/
theorem mem_uris_placedTriggers (able : receives d role p = true) (uri : Option Value) :
    uri ∈ uris ((protocolServers p d).map (placedTrigger d role p)) ↔
      uri = some (.text (Gateway.resourceId p.name)) := by
  constructor
  · intro mem
    obtain ⟨a, memActions, rfl⟩ := List.mem_map.1 mem
    obtain ⟨handler, memHandlers, memAction⟩ := List.mem_flatMap.1 memActions
    obtain ⟨t, memTriggers, memHandler⟩ := List.mem_flatMap.1 memHandlers
    obtain ⟨x, -, rfl⟩ := List.mem_map.1 memTriggers
    obtain ⟨⟨name, c, operation⟩, -, rfl⟩ := List.mem_map.1 memHandler
    obtain rfl := List.mem_singleton.1 memAction
    exact find?_uri_start _ _
  · rintro rfl
    rw [receives, Bool.and_eq_true, Bool.not_eq_true', Bool.not_eq_true'] at able
    obtain ⟨x, mem⟩ := List.exists_mem_of_ne_nil _ (List.isEmpty_eq_false_iff.1 able.1)
    obtain ⟨⟨name, c, operation⟩, mem'⟩ :=
      List.exists_mem_of_ne_nil _ (List.isEmpty_eq_false_iff.1 able.2)
    refine List.mem_map.2 ⟨_, List.mem_flatMap.2 ⟨_, List.mem_flatMap.2 ⟨_,
      List.mem_map_of_mem mem, List.mem_map_of_mem mem'⟩, List.mem_singleton_self _⟩, ?_⟩
    exact find?_uri_start _ _

/-- The trigger for publishing points at the resource that sends messages. -/
theorem uris_publishTrigger (p : Protocol) :
    uris [Gateway.publishTrigger p.profile] =
      [some (.text (Gateway.resourceId (Gateway.publishName p.name)))] := by
  have actions : ([Gateway.publishTrigger p.profile].flatMap Trigger.handlers).flatMap
      Handler.actions = [Gateway.start (Gateway.resourceId (Gateway.publishName p.name)) ∅] := rfl
  rw [uris, actions, List.map_singleton, find?_uri_start]

/-- **The actions of a pass name its own resources, each of them at least once.** -/
theorem mem_uris_of_pass (h : (pass o p d).result = .ok ()) (uri : Option Value) :
    uri ∈ uris ((pass o p d).items Emission.trigger?) ↔
      uri ∈ (((pass o p d).items Emission.resource?).map Resource.id).map
        fun id => some (.text id) := by
  have inbound : uri ∈ uris (if receives d o.role p then
        (protocolServers p d).map (placedTrigger d o.role p) else []) ↔
      uri ∈ (if receives d o.role p then [Gateway.resourceId p.name] else []).map
        fun id => some (.text id) := by
    by_cases able : receives d o.role p = true
    · rw [if_pos able, if_pos able, mem_uris_placedTriggers able, List.map_singleton,
        List.mem_singleton]
    · rw [if_neg able, if_neg able]
      exact Iff.rfl
  have outbound : uri ∈ uris (if sends d o.role p then [Gateway.publishTrigger p.profile] else []) ↔
      uri ∈ (if sends d o.role p then [Gateway.resourceId (Gateway.publishName p.name)]
        else []).map fun id => some (.text id) := by
    by_cases able : sends d o.role p = true
    · rw [if_pos able, if_pos able, uris_publishTrigger, List.map_singleton]
    · rw [if_neg able, if_neg able]
      exact Iff.rfl
  rw [triggers_of_pass h, resourceIds_of_pass h, uris_append, List.map_append, List.mem_append,
    List.mem_append, inbound, outbound]

/-- The steps of a pass name services of their own microgateway. -/
theorem stepServices_of_pass (h : (pass o p d).result = .ok ()) {r : Resource}
    (mem : r ∈ (pass o p d).items Emission.resource?) {step : Step}
    (memStep : step ∈ r.data.steps) :
    ∃ service ∈ r.data.services, service.name = step.service := by
  rw [resources_of_pass h] at mem
  rcases List.mem_append.1 mem with mem | mem
  · split at mem
    · obtain rfl := List.mem_singleton.1 mem
      rcases List.mem_pair.1 memStep with rfl | rfl
      · exact ⟨Gateway.logService, List.mem_cons_self, rfl⟩
      · exact ⟨Gateway.methodInvokerService, List.mem_cons_of_mem _ List.mem_cons_self, rfl⟩
    · cases mem
  · split at mem
    · obtain rfl := List.mem_singleton.1 mem
      obtain rfl := List.mem_singleton.1 memStep
      exact ⟨Gateway.logService, List.mem_append_right _ List.mem_cons_self, rfl⟩
    · cases mem

/-- The methods that the steps of resources invoke. -/
def invokedMethods (resources : List Resource) : List (Option Value) :=
  resources.flatMap fun r =>
    (r.data.steps.filter (·.service == "methodinvoker")).map fun step =>
      step.input.find? "methodName"

/-- The resource that receives messages calls the method of its protocol. -/
theorem invokedMethods_inbound (p : Protocol) :
    invokedMethods [Gateway.inbound p.name] = [some (.text (Gateway.methodName p.name))] := by
  have steps : (Gateway.inbound p.name).data.steps.filter (·.service == "methodinvoker") =
      [Gateway.invokeStep (Gateway.methodName p.name)] := rfl
  rw [invokedMethods, List.flatMap_singleton, steps, List.map_singleton]
  simp [Gateway.invokeStep]

/-- The steps of a pass invoke its methods, in order. -/
theorem invokedMethods_of_pass (h : (pass o p d).result = .ok ()) :
    invokedMethods ((pass o p d).items Emission.resource?) =
      ((pass o p d).items Emission.method?).map fun name => some (.text name) := by
  have outbound : invokedMethods (if sends d o.role p then
      [Gateway.outbound p.name ((protocolServers p d).flatMap (placedServices d o.role p))]
      else []) = [] := by
    split <;> rfl
  rw [resources_of_pass h, methods_of_pass h, invokedMethods, List.flatMap_append,
    ← invokedMethods, ← invokedMethods, outbound, List.append_nil]
  split
  · exact invokedMethods_inbound p
  · rfl

/-- A pass has at most one method. -/
theorem nodup_methods_of_pass (h : (pass o p d).result = .ok ()) :
    ((pass o p d).items Emission.method?).Nodup := by
  rw [methods_of_pass h]
  split <;> simp

end Passes

/-! ## Compilations -/

/-- The parts of a descriptor have different names, and what is named is there and nothing else. -/
structure Compilation.Closed (c : Compilation) : Prop where
  triggerIds : (c.app.triggers.map Trigger.id).Nodup
  resourceIds : (c.app.resources.map Resource.id).Nodup
  propertyNames : (c.app.properties.map Flogo.Property.name).Nodup
  uris : ∀ uri, uri ∈ c.app.actions.map (fun a => a.settings.find? "uri") ↔
    uri ∈ c.app.resources.map fun r => some (.text r.id)
  stepServices : ∀ r ∈ c.app.resources, ∀ step ∈ r.data.steps,
    ∃ service ∈ r.data.services, service.name = step.service
  methods : invokedMethods c.app.resources = c.methods.map fun name => some (.text name)
  nodup_methods : c.methods.Nodup

section Compilations

variable {c : Compilation}

/-- No action of a closed descriptor names a resource that is not there. -/
theorem Compilation.Closed.danglingResourceRefs (h : c.Closed) :
    c.app.danglingResourceRefs = [] := by
  refine List.filter_eq_nil_iff.2 fun uri mem => ?_
  obtain ⟨a, mem, found⟩ := List.mem_filterMap.1 mem
  obtain ⟨value, found, text⟩ := Option.bind_eq_some_iff.1 found
  obtain ⟨r, memResource, eq⟩ :=
    List.mem_map.1 ((h.uris (some value)).1 (found ▸ List.mem_map_of_mem mem))
  obtain rfl := Option.some.inj eq
  obtain rfl := Option.some.inj text
  simp only [App.resource?, Option.isNone_iff_eq_none, List.find?_eq_none]
  exact fun absent => absent r memResource (beq_self_eq_true r.id)

/-- No step of a closed descriptor names a service that is not there. -/
theorem Compilation.Closed.undeclaredStepServices (h : c.Closed) {r : Resource}
    (mem : r ∈ c.app.resources) : r.data.undeclaredStepServices = [] := by
  refine List.filter_eq_nil_iff.2 fun name memName => ?_
  obtain ⟨step, memStep, rfl⟩ := List.mem_map.1 memName
  obtain ⟨service, memService, name⟩ := h.stepServices r mem step memStep
  simp only [Bool.not_eq_true', Bool.not_eq_false, List.any_eq_true]
  exact ⟨service, memService, beq_iff_eq.2 name⟩

/-- **Descriptors are closed.**  Identifiers and names are distinct, actions name the resources and
nothing else, steps name services of their microgateway, and the methods of the support code are
those that steps invoke, in order. -/
theorem closed_of_compile {d : Document} {o : Options} (h : compile d o = .ok c) :
    c.Closed ∧ c.app.danglingResourceRefs = [] ∧
      ∀ r ∈ c.app.resources, r.data.undeclaredStepServices = [] := by
  obtain ⟨all, -⟩ := compile_eq_ok_iff.1 h
  have collects := collects_of_compile h
  have nodup_methods :
      (Protocol.all.flatMap fun p => (pass o p d).items Emission.method?).Nodup :=
    Protocol.nodup_flatMap_all (fun p => nodup_methods_of_pass (all p))
      fun p _ mem => method_eq_of_pass (all p) mem
  -- The names do not repeat, so adding them to the context leaves none out.
  have methods : c.methods = Protocol.all.flatMap fun p => (pass o p d).items Emission.method? := by
    rw [collects.methods, firstOfEach_eq_self id (by rwa [List.map_id])]
    exact fun _ _ => List.not_mem_nil
  have closed : c.Closed := by
    constructor
    case triggerIds =>
      rw [collects.triggers, List.map_flatMap]
      exact Protocol.nodup_flatMap_all (fun p => nodup_triggerIds_of_pass (all p))
        fun p _ mem => triggerId_eq_of_pass (all p) mem
    case resourceIds =>
      rw [collects.resources, List.map_flatMap]
      exact Protocol.nodup_flatMap_all (fun p => nodup_resourceIds_of_pass (all p))
        fun p _ mem => resourceId_eq_of_pass (all p) mem
    case propertyNames =>
      rw [collects.properties]
      exact nodup_keys_firstOfEach _ _ _
    -- Inside a pass references wait for their targets, so whole passes are compared.
    case uris =>
      intro uri
      have split : c.app.actions.map (fun a => a.settings.find? "uri") =
          Protocol.all.flatMap fun p => uris ((pass o p d).items Emission.trigger?) := by
        simp only [App.actions, collects.triggers, EventGateway.uris, List.flatMap_assoc,
          List.map_flatMap]
      rw [split, collects.resources, List.map_flatMap, List.mem_flatMap, List.mem_flatMap]
      refine exists_congr fun p => and_congr_right fun _ => ?_
      rw [mem_uris_of_pass (all p), List.map_map]
      rfl
    case stepServices =>
      intro r mem step memStep
      rw [collects.resources] at mem
      obtain ⟨p, -, mem⟩ := List.mem_flatMap.1 mem
      exact stepServices_of_pass (all p) mem memStep
    case methods =>
      rw [collects.resources, methods, invokedMethods, List.flatMap_assoc, List.map_flatMap]
      exact List.flatMap_congr fun p _ => invokedMethods_of_pass (all p)
    case nodup_methods =>
      rw [methods]
      exact nodup_methods
  exact ⟨closed, closed.danglingResourceRefs, fun r mem => closed.undeclaredStepServices mem⟩

/-- A document with two protocols has a closed descriptor. -/
theorem compile_mixedDocument_closed :
    ∃ c, compile mixedDocument {} = .ok c ∧ c.methods = ["kafkaMethod", "httpMethod"] ∧ c.Closed ∧
      c.app.danglingResourceRefs = [] := by
  obtain ⟨c, hc, -, methods⟩ := compile_mixedDocument
  obtain ⟨closed, dangling, -⟩ := closed_of_compile hc
  exact ⟨c, hc, methods, closed, dangling⟩

end Compilations

end EventGateway
