import EventGateway.Proofs.Composition

/-!
# The outline of a compilation

What becomes of the servers and channels of a document.  The outline of a trigger is its identifier
with the topics of its handlers, that of a resource its identifier with the names of its services.
Both are determined by the document: servers that speak a protocol, in their order, times channels
that carry an operation, ascending by name.

## Main statements

* `outlined_of_compile` — no server and no channel is lost, repeated or put elsewhere, and a server
  that is not supported leads to one warning and to nothing else.
-/

namespace EventGateway

open AsyncApi
open Flogo (Resource Service Trigger)

/-! ## What a document asks for -/

/-- The servers that speak a protocol, with their positions among all servers. -/
def AsyncApi.Document.speakers (d : Document) (p : Protocol) : List (Nat × Server) :=
  d.servers.servers.zipIdx.filterMap fun ((_, s), i) =>
    if p.isNamedBy s.protocol then some (i, s) else none

/-- The names of the channels that carry an operation in a direction, ascending. -/
def AsyncApi.Document.channelsWith (d : Document) (direction : Direction) : List String :=
  (d.channels.entries.filter fun (_, c) => (c.operation? direction).isSome).map Prod.fst

/-- The names of the servers that are not supported, with their identifiers. -/
def AsyncApi.Document.rejected (d : Document) : List (String × String) :=
  d.servers.servers.filterMap fun (name, s) =>
    if Protocol.ofIdentifier? s.protocol = none then some (name, s.protocol) else none

/-- The identifier of a trigger, and for each handler what its actions pass on as channel. -/
def Flogo.Trigger.outline (t : Trigger) : String × List (List (Option Value)) :=
  (t.id, t.handlers.map fun h => h.actions.map fun a => a.input.find? "channel")

/-- The identifier of a resource, and the names of its services. -/
def Flogo.Resource.outline (r : Resource) : String × List String :=
  (r.id, r.data.services.map Service.name)

/-- The triggers that a document asks for: one for each server with a handler for each inbound
channel, and one to which messages are posted that are to be sent. -/
def triggerOutlines (d : Document) (role : Role) (p : Protocol) :
    List (String × List (List (Option Value))) :=
  let inbound := d.channelsWith role.inbound
  let outbound := d.channelsWith role.outbound
  (if inbound.isEmpty then [] else
      (d.speakers p).map fun (i, s) => (p.name ++ toString i, inbound.map fun channel =>
        [some (.text ("='" ++ resolveTopic channel s.baseChannel ++ "'"))])) ++
    if p.activity.isSome && !(d.speakers p).isEmpty && !outbound.isEmpty then
      [(p.name ++ "Publish", [[none]])]
    else []

/-- The resources that a document asks for: one that takes what the triggers of servers receive, and
one that sends what is posted, by a service for each server and outbound channel. -/
def resourceOutlines (d : Document) (role : Role) (p : Protocol) : List (String × List String) :=
  let inbound := d.channelsWith role.inbound
  let outbound := d.channelsWith role.outbound
  (if !(d.speakers p).isEmpty && !inbound.isEmpty then
      [("microgateway:" ++ p.name, ["log", "methodinvoker"])]
    else []) ++
    if p.activity.isSome && !(d.speakers p).isEmpty && !outbound.isEmpty then
      [("microgateway:" ++ (p.name ++ "Publish"),
        ((d.speakers p).flatMap fun _ => outbound.map fun channel =>
          p.name ++ "-name-" ++ channel) ++ ["log"])]
    else []

/-- The channels with an operation stand in the order of their names. -/
theorem ascending_channelsWith (d : Document) (direction : Direction) :
    (d.channelsWith direction).Pairwise (· < ·) :=
  d.channels.ascending.sublist ((List.filter_sublist).map Prod.fst)

/-! ## Passes -/

section Passes

variable {d : Document} {o : Options} {role : Role} {p : Protocol}

/-- The servers that speak a protocol are those of its pass. -/
theorem speakers_eq : d.speakers p = (protocolServers p d).map fun x => (x.2, x.1.2) := by
  rw [protocolServers_eq, ← List.filterMap_eq_map, List.filterMap_filter]
  rfl

/-- The operations of a direction are named by their channels. -/
theorem map_fst_operations (direction : Direction) :
    (d.operations direction).map Prod.fst = d.channelsWith direction := by
  rw [Document.operations, Document.channelsWith, List.map_filterMap, ← List.filterMap_eq_map,
    List.filterMap_filter]
  refine List.filterMap_congr fun x _ => ?_
  cases h : x.2.operation? direction <;> simp [h]

/-- There are operations of a direction if some channel has one. -/
theorem isEmpty_operations (direction : Direction) :
    (d.operations direction).isEmpty = (d.channelsWith direction).isEmpty := by
  rw [← map_fst_operations, List.isEmpty_map]

/-- Whether messages are received, read off the document. -/
theorem receives_eq :
    receives d role p = (!(d.speakers p).isEmpty && !(d.channelsWith role.inbound).isEmpty) := by
  rw [receives, isEmpty_operations, speakers_eq, List.isEmpty_map]

/-- Whether messages are sent, read off the document. -/
theorem sends_eq :
    sends d role p = (p.activity.isSome && !(d.speakers p).isEmpty &&
      !(d.channelsWith role.outbound).isEmpty) := by
  rw [sends, isEmpty_operations, speakers_eq, List.isEmpty_map,
    Bool.and_comm p.activity.isSome]

/-- A handler passes on the topic of its channel. -/
theorem find?_channel_handlerInput (profile : Profile) (topic : String) :
    (handlerInput profile topic).find? "channel" = some (.text ("='" ++ topic ++ "'")) := by
  simp [handlerInput, Dict.find?_insert?]

/-- The outline of the trigger of a server: its position, and the topics of all inbound channels. -/
theorem outline_placedTrigger (x : PlacedServer) :
    (placedTrigger d role p x).outline =
      (p.name ++ toString x.2, (d.channelsWith role.inbound).map fun channel =>
        [some (.text ("='" ++ resolveTopic channel x.1.2.baseChannel ++ "'"))]) := by
  rw [← map_fst_operations, List.map_map]
  refine Prod.ext rfl ?_
  simp only [Trigger.outline, placedTrigger, serverTrigger, placedHandlers, serverHandlers,
    List.map_map]
  refine List.map_congr_left fun x _ => ?_
  simp only [Function.comp_apply, operationHandler, Binding.handler, Gateway.start,
    channelEndpoint, List.map_cons, List.map_nil, find?_channel_handlerInput]

/-- The outlines of the triggers of a pass. -/
theorem outlines_of_triggers (h : (pass o p d).result = .ok ()) :
    ((pass o p d).items Emission.trigger?).map Trigger.outline = triggerOutlines d o.role p := by
  rw [triggers_of_pass h, List.map_append, triggerOutlines, ← sends_eq, speakers_eq]
  congr 1
  · have servers : ((protocolServers p d).map (placedTrigger d o.role p)).map Trigger.outline =
        (protocolServers p d).map fun x =>
          (p.name ++ toString x.2, (d.channelsWith o.role.inbound).map fun channel =>
            [some (.text ("='" ++ resolveTopic channel x.1.2.baseChannel ++ "'"))]) := by
      rw [List.map_map]
      exact List.map_congr_left fun x _ => outline_placedTrigger x
    rw [receives_eq, speakers_eq, List.isEmpty_map, List.map_map, Function.comp_def, ← servers]
    cases (d.channelsWith o.role.inbound).isEmpty with
    | true => simp
    | false => cases protocolServers p d <;> simp
  · split <;> rfl

/-- The services of a server are named after the outbound channels. -/
theorem names_placedServices (able : p.activity.isSome = true) (x : PlacedServer) :
    (placedServices d role p x).map Service.name =
      (d.channelsWith role.outbound).map fun channel => p.name ++ "-name-" ++ channel := by
  obtain ⟨activity, eq⟩ := Option.isSome_iff_exists.1 able
  rw [placedServices, serverServices, eq, Option.toList_some, List.flatMap_singleton,
    ← map_fst_operations, List.map_map, List.map_map]
  rfl

/-- The outlines of the resources of a pass. -/
theorem outlines_of_resources (h : (pass o p d).result = .ok ()) :
    ((pass o p d).items Emission.resource?).map Resource.outline =
      resourceOutlines d o.role p := by
  rw [resources_of_pass h, List.map_append, resourceOutlines, ← sends_eq, ← receives_eq]
  congr 1
  · split <;> rfl
  · by_cases able : sends d o.role p = true
    · have activity : p.activity.isSome = true := by
        rw [sends_eq, Bool.and_eq_true, Bool.and_eq_true] at able
        exact able.1.1
      have services : ((protocolServers p d).flatMap (placedServices d o.role p)).map Service.name =
          (d.speakers p).flatMap fun _ => (d.channelsWith o.role.outbound).map fun channel =>
            p.name ++ "-name-" ++ channel := by
        rw [List.map_flatMap, speakers_eq, List.flatMap_map]
        exact List.flatMap_congr fun x _ => names_placedServices activity x
      rw [if_pos able, if_pos able, ← services, List.map_singleton, Resource.outline,
        Gateway.outbound, List.map_append]
      rfl
    · rw [if_neg able, if_neg able]
      rfl

end Passes

/-! ## Servers that are not supported -/

/-- The server that a warning about its protocol is about, with its identifier. -/
def Warning.unsupported? : Warning → Option (String × String)
  | unsupportedProtocol server protocol => some (server, protocol)
  | _ => none

/-- The servers that warnings report as not supported. -/
def reported (warnings : List Warning) : List (String × String) :=
  warnings.filterMap Warning.unsupported?

/-- The first warnings report the servers that are rejected. -/
theorem reported_unsupportedServers (d : Document) :
    reported (unsupportedServers d) = d.rejected := by
  rw [reported, unsupportedServers, Document.rejected, List.filterMap_filterMap]
  refine List.filterMap_congr fun x _ => ?_
  cases h : Protocol.ofIdentifier? x.2.protocol <;> simp [h, Warning.unsupported?]

/-- What passes emit does not report a server as not supported. -/
theorem reported_absorbAll {d : Document} {c : Context} {es : List Emission}
    (h : ∀ e ∈ es, e.IsFrom d) : reported (c.absorbAll es).warnings = reported c.warnings := by
  have step : ∀ (c : Context) (e : Emission), e.IsFrom d →
      reported (c.absorb e).warnings = reported c.warnings := by
    intro c e isFrom
    cases e with
    | warning w =>
      obtain ⟨server, name, rfl⟩ := isFrom
      simp [Context.absorb, reported, Warning.unsupported?]
    | bindings channel direction info defects =>
      simp only [Context.absorb]
      split
      · rfl
      · simp [reported, Warning.unsupported?]
    | _ => rfl
  induction es generalizing c with
  | nil => rfl
  | cons e es ih =>
    obtain ⟨head, tail⟩ := List.forall_mem_cons.1 h
    rw [Context.absorbAll_cons, ih tail, step c e head]

/-- Conflicts of properties report no server. -/
theorem reported_finish (c : Context) : reported c.finish.warnings = reported c.warnings := by
  simp [Context.finish, reported, Warning.unsupported?]

/-- A compilation reports every server that is not supported once, in order. -/
theorem reported_of_compile {d : Document} {o : Options} {c : Compilation}
    (h : compile d o = .ok c) : reported c.warnings = d.rejected := by
  obtain ⟨-, rfl⟩ := compile_eq_ok_iff.1 h
  rw [reported_finish, reported_absorbAll (d := d), startContext, reported_unsupportedServers]
  exact fun e mem => isFrom_of_mem_passes mem

/-- Two documents that differ only in servers that are not supported. -/
structure AsyncApi.Document.AgreesOnSupported (d d' : Document) : Prop where
  id : d'.id = d.id
  info : d'.info = d.info
  channels : d'.channels = d.channels
  components : d'.components = d.components
  servers : List.Forall₂ (fun x x' : String × Server => x' = x ∨
      Protocol.ofIdentifier? x.2.protocol = none ∧ Protocol.ofIdentifier? x'.2.protocol = none)
    d.servers.servers d'.servers.servers

/-- A pass sees nothing of the servers that are rejected. -/
theorem protocolServers_of_agreesOnSupported {d d' : Document}
    (h : Document.AgreesOnSupported d d') (p : Protocol) :
    protocolServers p d' = protocolServers p d := by
  rw [protocolServers_eq, protocolServers_eq]
  refine filter_zipIdx_congr (fun x => p.isNamedBy x.2.protocol)
    (h.servers.imp fun x x' same speaks => ?_) 0
  rcases same with same | ⟨unsupported, unsupported'⟩
  · exact same
  · rw [Protocol.ofIdentifier?_eq_none_iff.1 unsupported p,
      Protocol.ofIdentifier?_eq_none_iff.1 unsupported' p] at speaks
    rcases speaks with speaks | speaks <;> cases speaks

/-- Warnings have no influence on what else a context takes up. -/
theorem absorbAll_warnings (c : Context) (warnings : List Warning) (es : List Emission) :
    ∃ warnings', ({ c with warnings } : Context).absorbAll es =
      { c.absorbAll es with warnings := warnings' } := by
  have step : ∀ (c : Context) (warnings : List Warning) (e : Emission),
      ∃ warnings', ({ c with warnings } : Context).absorb e =
        { c.absorb e with warnings := warnings' } := by
    intro c warnings e
    cases e with
    | bindings channel direction info defects =>
      have same : ({ c with warnings } : Context).bindings? channel direction =
          c.bindings? channel direction := rfl
      by_cases known : (c.bindings? channel direction).isSome = true
      · exact ⟨warnings, by simp only [Context.absorb, same, if_pos known]⟩
      · exact ⟨warnings ++ defects.map (.binding channel direction),
          by simp only [Context.absorb, same, if_neg known]⟩
    | _ => exact ⟨_, rfl⟩
  induction es generalizing c warnings with
  | nil => exact ⟨warnings, rfl⟩
  | cons e es ih =>
    obtain ⟨warnings', eq⟩ := step c warnings e
    rw [Context.absorbAll_cons, Context.absorbAll_cons, eq]
    exact ih (c.absorb e) warnings'

/-- What a compilation gives apart from warnings. -/
def compiled (r : Except Fault Compilation) : Except Fault (Flogo.App × List String) :=
  r.map fun c => (c.app, c.methods)

/-- **Servers that are not supported have no influence** on a fault, the application or the methods
of the support code. -/
theorem compiled_of_agreesOnSupported {d d' : Document} (h : Document.AgreesOnSupported d d')
    (o : Options) : compiled (compile d' o) = compiled (compile d o) := by
  have same : passes o d' = passes o d := Trace.mapM_congr fun p _ =>
    pass_congr (protocolServers_of_agreesOnSupported h p) h.channels h.components o
  have start : startContext d' o =
      { startContext d o with warnings := unsupportedServers d' } := by
    simp only [startContext, Document.appName, h.id, h.info]
  obtain ⟨warnings, eq⟩ :=
    absorbAll_warnings (startContext d o) (unsupportedServers d') (passes o d).emitted
  rw [compile_eq, compile_eq, same, start, eq]
  cases (passes o d).result <;> rfl

/-! ## Compilations -/

/-- A compilation has the outline that a document asks for. -/
structure Compilation.Outlined (c : Compilation) (d : Document) (o : Options) : Prop where
  triggers : c.app.triggers.map Trigger.outline = Protocol.all.flatMap (triggerOutlines d o.role)
  resources : c.app.resources.map Resource.outline =
    Protocol.all.flatMap (resourceOutlines d o.role)
  warnings : reported c.warnings = d.rejected

/-- **No channel or server is lost, repeated or put elsewhere.**  Triggers, handlers, resources and
services are those that the document asks for, in its order, with channels ascending by name.  An
identifier is rejected if no protocol is named by it; the servers with such identifiers are
reported, and nothing else depends on them. -/
theorem outlined_of_compile {d : Document} {o : Options} {c : Compilation}
    (h : compile d o = .ok c) :
    c.Outlined d o ∧
      (∀ direction, (d.channelsWith direction).Pairwise (· < ·)) ∧
      (∀ (p : Protocol) (identifier : String), p.isNamedBy identifier = true ↔
        (Protocol.ofIdentifier? identifier).map Prod.fst = some p) ∧
      ∀ d', Document.AgreesOnSupported d d' →
        compiled (compile d' o) = .ok (c.app, c.methods) := by
  obtain ⟨all, -⟩ := compile_eq_ok_iff.1 h
  have collects := collects_of_compile h
  refine ⟨⟨?_, ?_, reported_of_compile h⟩, ascending_channelsWith d, Protocol.isNamedBy_iff,
    fun d' agrees => ?_⟩
  · rw [collects.triggers, List.map_flatMap]
    exact List.flatMap_congr fun p _ => outlines_of_triggers (all p)
  · rw [collects.resources, List.map_flatMap]
    exact List.flatMap_congr fun p _ => outlines_of_resources (all p)
  · rw [compiled_of_agreesOnSupported agrees, h]
    rfl

theorem compile_mixedDocument_outlined :
    ∃ c, compile mixedDocument {} = .ok c ∧
      c.app.triggers.map Trigger.outline =
        [("kafka0", [[some (.text "='/door'")], [some (.text "='/light'")]]),
          ("kafkaPublish", [[none]]),
          ("http2", [[some (.text "='/door'")], [some (.text "='/light'")]]),
          ("httpPublish", [[none]])] ∧
      c.app.resources.map Resource.outline =
        [("microgateway:kafka", ["log", "methodinvoker"]),
          ("microgateway:kafkaPublish", ["kafka-name-/door", "kafka-name-light", "log"]),
          ("microgateway:http", ["log", "methodinvoker"]),
          ("microgateway:httpPublish", ["http-name-/door", "http-name-light", "log"])] ∧
      reported c.warnings = [("queue", "amqp")] := by
  obtain ⟨c, hc, -⟩ := compile_mixedDocument
  obtain ⟨⟨triggers, resources, warnings⟩, -⟩ := outlined_of_compile hc
  exact ⟨c, hc, triggers.trans rfl, resources.trans rfl, warnings.trans rfl⟩

end EventGateway
