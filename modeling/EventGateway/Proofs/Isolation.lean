import EventGateway.Proofs.Composition

/-!
# Operations do not share state

The passes of a compilation share the binding information that has been read, and within a pass the
endpoint of a server goes from channel to channel and from the handler to the service of a channel.
Neither leaves a mark.  A pass follows its plain counterpart (`lowerProtocol_follows`), in which
nothing is shared, so the settings of an operation are those of an endpoint that is made for it from
scratch (`freshEndpoint`), and what is wrong with its binding information is reported once, by
whichever pass reads it first.

## Main statements

* `freshEndpoint_of_pass` — the endpoint of an operation in a pass is the one made from scratch.
* `operations_of_pass` — the operations whose binding information a pass reads.
* `warningsAbout_absorbAll` — what a context reports about an operation.
* `isolated_of_compile` — the settings of all handlers and services, and the warnings about binding
  information.
-/

namespace EventGateway

open AsyncApi
open Flogo (Resource Settings Trigger)

/-! ## Endpoints from scratch -/

/-- The endpoint of a server for an operation of a channel, made from the three alone. -/
def freshEndpoint (p : Protocol) (d : Document) (x : PlacedServer) (name : String) (c : Channel)
    (o : Operation) : Except Fault Endpoint := do
  let extensions ← ServerExtensions.read ("server " ++ x.1.1) x.1.2.extensions
    p.profile.connectionExtensions
  let url ← (connectUrl (serverLabel p x.2) x.1.1 x.1.2).result
  let port ← (connectPort (serverLabel p x.2) x.1.2).result
  let parameters ← ChannelParameter.readAll name c.parameters
  return {
    protocol := p.name
    serverIndex := x.2
    secure := x.1.2.protocol == p.profile.secure
    userPassword := d.usesUserPassword x.1.2
    url
    port
    extensions
    parameters
    topic := resolveTopic name x.1.2.baseChannel
    bindings := (OperationBindings.read o.protocolInfo).1 }

/-- The settings of the handlers of a server, each from an endpoint of its own. -/
def freshHandlers (d : Document) (role : Role) (p : Protocol) (x : PlacedServer) :
    List (Except Fault Settings) :=
  (d.operations role.inbound).map fun (name, c, o) =>
    (freshEndpoint p d x name c o).map p.handlerSettings

/-- The settings of the services of a server, each from an endpoint of its own. -/
def freshServices (d : Document) (role : Role) (p : Protocol) (x : PlacedServer) :
    List (Except Fault Settings) :=
  (d.operations role.outbound).map fun (name, c, o) =>
    (freshEndpoint p d x name c o).map p.serviceSettings

/-- The settings of the handlers of a trigger. -/
def Flogo.Trigger.handlerSettings (t : Trigger) : List (Except Fault Settings) :=
  t.handlers.map fun h => .ok h.settings

/-- The settings of the services of a resource. -/
def Flogo.Resource.serviceSettings (r : Resource) : List (Except Fault Settings) :=
  r.data.services.map fun s => .ok s.settings

section Passes

variable {d : Document} {o : Options} {p : Protocol} {x : PlacedServer}

/-- The operations of a document, channel by channel. -/
theorem mem_operations_iff {direction : Direction} {name : String} {c : Channel}
    {operation : Operation} :
    (name, c, operation) ∈ d.operations direction ↔
      (name, c) ∈ d.channels.entries ∧ c.operation? direction = some operation := by
  rw [Document.operations, List.mem_filterMap]
  constructor
  · rintro ⟨⟨name', c'⟩, mem, eq⟩
    obtain ⟨operation', found, eq⟩ := Option.map_eq_some_iff.1 eq
    cases eq
    exact ⟨mem, found⟩
  · rintro ⟨mem, found⟩
    refine ⟨(name, c), mem, ?_⟩
    show (c.operation? direction).map _ = _
    rw [found, Option.map_some]

/-- If a server can be compiled, the parameters of every channel can be read. -/
theorem parameters_of_pass (h : (pass o p d).result = .ok ()) (mem : x ∈ protocolServers p d)
    {name : String} {c : Channel} (mem' : (name, c) ∈ d.channels.entries) :
    ∃ parameters, ChannelParameter.readAll name c.parameters = .ok parameters := by
  obtain ⟨servers, hservers, -⟩ := Trace.result_bind_eq_ok.1 h
  obtain ⟨server, hserver⟩ := Trace.exists_ok_of_mapM hservers x mem
  obtain ⟨e, -, hserver⟩ := Trace.result_bind_eq_ok.1 hserver
  obtain ⟨channels, hchannels, -⟩ := Trace.result_bind_eq_ok.1 hserver
  obtain ⟨channel, hchannel⟩ := Trace.exists_ok_of_mapM hchannels (name, c) mem'
  rw [result_compileChannel] at hchannel
  cases read : ChannelParameter.readAll name c.parameters with
  | error fault =>
    rw [read] at hchannel
    cases hchannel
  | ok parameters => exact ⟨parameters, rfl⟩

/-- **The endpoint of an operation in a pass** is the one made from scratch. -/
theorem freshEndpoint_of_pass (h : (pass o p d).result = .ok ()) (mem : x ∈ protocolServers p d)
    {name : String} {c : Channel} (mem' : (name, c) ∈ d.channels.entries) (operation : Operation) :
    freshEndpoint p d x name c operation =
      .ok (channelEndpoint x.1.2 (endpointOf p d x) name c operation) := by
  obtain ⟨parameters, hparameters⟩ := parameters_of_pass h mem mem'
  have connected : (connect p d x.2 x.1.1 x.1.2).result = .ok (endpointOf p d x) :=
    (servers_of_pass h mem).1
  rw [connect_eq] at connected
  obtain ⟨extensions, hextensions, connected⟩ := Trace.result_bind_eq_ok.1 connected
  obtain ⟨-, -, connected⟩ := Trace.result_bind_eq_ok.1 connected
  obtain ⟨url, hurl, connected⟩ := Trace.result_bind_eq_ok.1 connected
  obtain ⟨port, hport, connected⟩ := Trace.result_bind_eq_ok.1 connected
  rw [Trace.result_ofExcept] at hextensions
  rw [freshEndpoint, hextensions, hurl, hport, hparameters, ← Except.ok.inj connected,
    channelEndpoint, hparameters]
  rfl

/-- **The handlers of a server** have the settings that fresh endpoints give. -/
theorem settings_placedHandlers (h : (pass o p d).result = .ok ())
    (mem : x ∈ protocolServers p d) :
    (placedHandlers d o.role p x).map (fun handler => Except.ok handler.settings) =
      freshHandlers d o.role p x := by
  rw [placedHandlers, serverHandlers, List.map_map, freshHandlers]
  refine List.map_congr_left fun operation memOperation => ?_
  obtain ⟨name, c, operation⟩ := operation
  have entry := (mem_operations_iff.1 memOperation).1
  simp only [Function.comp_apply, freshEndpoint_of_pass h mem entry]
  rfl

/-- **The services of a server** have the settings that fresh endpoints give. -/
theorem settings_placedServices (h : (pass o p d).result = .ok ())
    (able : p.activity.isSome = true) (mem : x ∈ protocolServers p d) :
    (placedServices d o.role p x).map (fun service => Except.ok service.settings) =
      freshServices d o.role p x := by
  obtain ⟨activity, eq⟩ := Option.isSome_iff_exists.1 able
  rw [placedServices, serverServices, eq, Option.toList_some, List.flatMap_singleton,
    List.map_map, freshServices]
  refine List.map_congr_left fun operation memOperation => ?_
  obtain ⟨name, c, operation⟩ := operation
  have entry := (mem_operations_iff.1 memOperation).1
  simp only [Function.comp_apply, freshEndpoint_of_pass h mem entry]
  rfl

/-- The handlers that a pass emits: those of its servers, and the one to which messages are posted
that are to be sent. -/
theorem handlerSettings_of_pass (h : (pass o p d).result = .ok ()) :
    ((pass o p d).items Emission.trigger?).map Trigger.handlerSettings =
      (if receives d o.role p then (protocolServers p d).map (freshHandlers d o.role p) else []) ++
        if sends d o.role p then [(Gateway.publishTrigger p.profile).handlerSettings] else [] := by
  rw [triggers_of_pass h, List.map_append]
  congr 1
  · split
    · rw [List.map_map]
      exact List.map_congr_left fun x mem => settings_placedHandlers h mem
    · rfl
  · split <;> rfl

/-- The services that a pass emits: those of its servers, and those that every microgateway has. -/
theorem serviceSettings_of_pass (h : (pass o p d).result = .ok ()) :
    ((pass o p d).items Emission.resource?).map Resource.serviceSettings =
      (if receives d o.role p then [[.ok ∅, .ok ∅]] else []) ++
        if sends d o.role p then
          [(protocolServers p d).flatMap (freshServices d o.role p) ++ [.ok ∅]]
        else [] := by
  rw [resources_of_pass h, List.map_append]
  congr 1
  · split <;> rfl
  · split
    next able =>
      have activity : p.activity.isSome = true := by
        rw [sends, Bool.and_eq_true, Bool.and_eq_true] at able
        exact able.1.2
      have each : ∀ x ∈ protocolServers p d,
          (placedServices d o.role p x).map (fun service => Except.ok service.settings) =
            freshServices d o.role p x :=
        fun x mem => settings_placedServices h activity mem
      rw [List.map_singleton, Flogo.Resource.serviceSettings, Gateway.outbound, List.map_append,
        List.map_flatMap, List.flatMap_congr each]
      rfl
    next => rfl

end Passes

/-! ## Operations that are read -/

/-- The operation whose binding information an emission gives. -/
def Emission.operation? : Emission → Option (String × Direction)
  | bindings channel direction _ _ => some (channel, direction)
  | _ => none

/-- The operations of a channel whose binding information is read for a server: messages are
received from the channel, or they are sent to it and the protocol can send. -/
def channelReads (role : Role) (p : Protocol) (name : String) (c : Channel) :
    List (String × Direction) :=
  ((c.operation? role.inbound).toList.map fun _ => (name, role.inbound)) ++
    if p.activity.isSome then
      (c.operation? role.outbound).toList.map fun _ => (name, role.outbound)
    else []

section Passes

variable {d : Document} {o : Options} {p : Protocol}

/-- What a channel reads binding information of. -/
theorem operations_of_channel {role : Role} {base : Option String} {e : Endpoint} {name : String}
    {c : Channel} {parts : ChannelParts}
    (h : (compileChannel role p base e name c).result = .ok parts) :
    (compileChannel role p base e name c).items Emission.operation? =
      channelReads role p name c := by
  obtain ⟨parameters, hparameters, -⟩ := Trace.result_bind_eq_ok.1 h
  rw [Trace.items, compileChannel, Trace.emitted_bind_of_ok hparameters, channelReads]
  cases inbound : c.operation? role.inbound <;> cases outbound : c.operation? role.outbound <;>
    cases activity : p.activity <;>
    simp only [compileHandler, compileService, inbound, outbound, activity] <;> rfl

theorem operation?_of_isPart {e : Emission} (h : e.isPart = true) : e.operation? = none := by
  cases e <;> first | rfl | cases h

/-- What belongs to the application is no binding information. -/
theorem items_of_parts {es : List Emission} (parts : ∀ e ∈ es, e.isPart = true) :
    es.filterMap Emission.operation? = [] :=
  List.filterMap_eq_nil_iff.2 fun e mem => operation?_of_isPart (parts e mem)

/-- What a server reads binding information of: channel by channel. -/
theorem operations_of_server {x : PlacedServer} {parts : ServerParts}
    (h : (compileServer o p d x.2 x.1.1 x.1.2).result = .ok parts) :
    (compileServer o p d x.2 x.1.1 x.1.2).items Emission.operation? =
      d.channels.entries.flatMap fun (name, c) => channelReads o.role p name c := by
  obtain ⟨e, he, h⟩ := Trace.result_bind_eq_ok.1 h
  obtain ⟨channels, hchannels, -⟩ := Trace.result_bind_eq_ok.1 h
  have connected : (connect p d x.2 x.1.1 x.1.2).emitted.filterMap Emission.operation? = [] :=
    items_connection (fun _ => rfl) (fun _ => rfl) x
  have tail : ∀ {es : List Emission} (parts : ServerParts), (∀ em ∈ es, em.isPart = true) →
      (Trace.emitAll es >>= fun _ => pure parts).emitted.filterMap Emission.operation? = [] := by
    intro es parts arePart
    rw [Trace.emitted_bind_of_ok (Trace.result_emitAll es), Trace.emitted_emitAll,
      Trace.emitted_pure, List.append_nil]
    exact items_of_parts arePart
  rw [Trace.items, compileServer, Trace.emitted_bind_of_ok he, Trace.emitted_bind_of_ok hchannels,
    Trace.emitted_mapM_of_ok hchannels, List.filterMap_append, List.filterMap_append, connected,
    tail _ fun em mem => isPart_of_mem_serverEmissions mem, List.nil_append, List.append_nil,
    List.filterMap_flatMap]
  refine List.flatMap_congr fun channel mem => ?_
  obtain ⟨channelParts, hchannel⟩ := Trace.exists_ok_of_mapM hchannels channel mem
  exact operations_of_channel hchannel

/-- **The operations whose binding information a pass reads**, with repetitions. -/
theorem operations_of_pass (h : (pass o p d).result = .ok ()) :
    (pass o p d).items Emission.operation? =
      (protocolServers p d).flatMap fun _ =>
        d.channels.entries.flatMap fun (name, c) => channelReads o.role p name c := by
  obtain ⟨servers, hservers, -⟩ := Trace.result_bind_eq_ok.1 h
  rw [Trace.items, pass, Trace.emitted_bind_of_ok hservers,
    Trace.emitted_mapM_of_ok hservers, List.filterMap_append, Trace.emitted_emitAll,
    items_of_parts fun e mem => isPart_of_mem_assemble mem, List.append_nil,
    List.filterMap_flatMap]
  refine List.flatMap_congr fun x mem => ?_
  obtain ⟨server, hserver⟩ := Trace.exists_ok_of_mapM hservers x mem
  exact operations_of_server hserver

end Passes

/-- An operation leads to a handler, as messages are received by it, or to a service, as messages
are sent by it and the protocol of a server can send. -/
inductive AsyncApi.Document.Yields (d : Document) (role : Role) (channel : String) :
    Direction → Prop
  | handler {p : Protocol} {x : PlacedServer} {c : Channel} {operation : Operation}
      (server : x ∈ protocolServers p d)
      (mem : (channel, c, operation) ∈ d.operations role.inbound) :
      Yields d role channel role.inbound
  | service {p : Protocol} {x : PlacedServer} {c : Channel} {operation : Operation}
      (server : x ∈ protocolServers p d) (able : p.activity.isSome = true)
      (mem : (channel, c, operation) ∈ d.operations role.outbound) :
      Yields d role channel role.outbound

section Passes

variable {d : Document} {o : Options}

/-- The binding information of an outbound operation is read only where messages can be sent. -/
theorem mem_channelReads_iff {role : Role} {p : Protocol} {name channel : String} {c : Channel}
    {direction : Direction} :
    (channel, direction) ∈ channelReads role p name c ↔ channel = name ∧
      (direction = role.inbound ∧ (c.operation? role.inbound).isSome = true ∨
        direction = role.outbound ∧ p.activity.isSome = true ∧
          (c.operation? role.outbound).isSome = true) := by
  unfold channelReads
  cases c.operation? role.inbound <;> cases c.operation? role.outbound <;>
    cases p.activity <;> simp [and_or_left]

/-- The binding information of an operation is read if and only if the operation leads to a handler
or a service. -/
theorem mem_operations_of_passes_iff (h : ∀ p, (pass o p d).result = .ok ()) {channel : String}
    {direction : Direction} :
    (channel, direction) ∈ (Protocol.all.flatMap fun p => (pass o p d).emitted).filterMap
        Emission.operation? ↔ d.Yields o.role channel direction := by
  have reads : ∀ p, (channel, direction) ∈ (pass o p d).emitted.filterMap Emission.operation? ↔
      ∃ x ∈ protocolServers p d, ∃ entry ∈ d.channels.entries,
        (channel, direction) ∈ channelReads o.role p entry.1 entry.2 := by
    intro p
    rw [← Trace.items, operations_of_pass (h p)]
    simp only [List.mem_flatMap]
  rw [List.filterMap_flatMap, List.mem_flatMap]
  simp only [reads, mem_channelReads_iff]
  constructor
  · rintro ⟨p, -, x, server, ⟨name, c⟩, mem, rfl, ⟨rfl, found⟩ | ⟨rfl, able, found⟩⟩
    · obtain ⟨operation, found⟩ := Option.isSome_iff_exists.1 found
      exact .handler server (mem_operations_iff.2 ⟨mem, found⟩)
    · obtain ⟨operation, found⟩ := Option.isSome_iff_exists.1 found
      exact .service server able (mem_operations_iff.2 ⟨mem, found⟩)
  · intro yields
    cases yields with
    | @handler p x c operation server mem =>
      obtain ⟨entry, found⟩ := mem_operations_iff.1 mem
      exact ⟨p, p.mem_all, x, server, _, entry, rfl, .inl ⟨rfl, by rw [found]; rfl⟩⟩
    | @service p x c operation server able mem =>
      obtain ⟨entry, found⟩ := mem_operations_iff.1 mem
      exact ⟨p, p.mem_all, x, server, _, entry, rfl, .inr ⟨rfl, able, by rw [found]; rfl⟩⟩

end Passes

/-! ## What is reported about an operation -/

/-- Whether a warning is about the binding information of an operation. -/
def Warning.isAbout (channel : String) (direction : Direction) : Warning → Bool
  | binding channel' direction' _ => channel' == channel && direction' == direction
  | _ => false

/-- The warnings about the binding information of an operation, in order. -/
def warningsAbout (channel : String) (direction : Direction) (warnings : List Warning) :
    List Warning :=
  warnings.filter (Warning.isAbout channel direction)

/-- The warnings to which the binding information of an operation gives rise. -/
def AsyncApi.Operation.warnings (channel : String) (direction : Direction) (o : Operation) :
    List Warning :=
  (OperationBindings.read o.protocolInfo).2.map (.binding channel direction)

section Warnings

variable {d : Document} {channel : String} {direction : Direction}

/-- Warnings about an operation, part by part. -/
theorem warningsAbout_append (ws ws' : List Warning) :
    warningsAbout channel direction (ws ++ ws') =
      warningsAbout channel direction ws ++ warningsAbout channel direction ws' :=
  List.filter_append ws ws'

/-- All defects of an operation are about it. -/
theorem warningsAbout_self (defects : List Defect) :
    warningsAbout channel direction (defects.map (.binding channel direction)) =
      defects.map (.binding channel direction) := by
  refine List.filter_eq_self.2 fun w mem => ?_
  obtain ⟨defect, -, rfl⟩ := List.mem_map.1 mem
  simp [Warning.isAbout]

/-- The defects of one operation are not about another. -/
theorem warningsAbout_other {channel' : String} {direction' : Direction}
    (other : (channel', direction') ≠ (channel, direction)) (defects : List Defect) :
    warningsAbout channel direction (defects.map (.binding channel' direction')) = [] := by
  refine List.filter_eq_nil_iff.2 fun w mem => ?_
  obtain ⟨defect, -, rfl⟩ := List.mem_map.1 mem
  intro about
  obtain ⟨channels, directions⟩ := Bool.and_eq_true_iff.1 about
  exact other (Prod.ext (eq_of_beq channels) (eq_of_beq directions))

/-- Emissions about other operations leave the binding information of an operation alone. -/
theorem bindings?_absorb_of_ne (c : Context) {e : Emission}
    (other : e.operation? ≠ some (channel, direction)) :
    (c.absorb e).bindings? channel direction = c.bindings? channel direction := by
  cases e with
  | bindings channel' direction' info defects =>
    have ne : ((channel, direction) == (channel', direction')) = false := by
      rw [beq_eq_false_iff_ne]
      exact fun same => other (congrArg some same.symm)
    simp only [Context.absorb]
    split
    · rfl
    · simp only [Context.bindings?, List.lookup_append, List.lookup_cons, ne, List.lookup_nil,
        Option.or_none]
  | _ => rfl

/-- They do not lead to warnings about it either. -/
theorem warningsAbout_absorb_of_ne (c : Context) {e : Emission} (isFrom : e.IsFrom d)
    (other : e.operation? ≠ some (channel, direction)) :
    warningsAbout channel direction (c.absorb e).warnings =
      warningsAbout channel direction c.warnings := by
  cases e with
  | warning w =>
    obtain ⟨server, name, rfl⟩ := isFrom
    exact (warningsAbout_append _ _).trans (List.append_nil _)
  | bindings channel' direction' info defects =>
    have ne : (channel', direction') ≠ (channel, direction) :=
      fun same => other (congrArg some same)
    simp only [Context.absorb]
    split
    · rfl
    · rw [warningsAbout_append, warningsAbout_other ne, List.append_nil]
  | _ => rfl

/-- An emission that gives the binding information of an operation says nothing new if there is
some. -/
theorem absorb_of_known {c : Context} (known : (c.bindings? channel direction).isSome = true)
    {e : Emission} (same : e.operation? = some (channel, direction)) : c.absorb e = c := by
  cases e with
  | bindings channel' direction' info defects =>
    obtain ⟨rfl, rfl⟩ := Prod.mk.inj (Option.some.inj same)
    exact c.absorb_bindings_of_isSome known info defects
  | _ => cases same

/-- **Binding information that is given for the first time** is kept, and all that is wrong with it
is reported. -/
theorem absorb_of_unknown {operation : Operation}
    (read : d.bindings? channel direction = some (OperationBindings.read operation.protocolInfo))
    {c : Context} (unknown : c.bindings? channel direction = none) {e : Emission}
    (isFrom : e.IsFrom d) (same : e.operation? = some (channel, direction)) :
    ((c.absorb e).bindings? channel direction).isSome = true ∧
      warningsAbout channel direction (c.absorb e).warnings =
        warningsAbout channel direction c.warnings ++ operation.warnings channel direction := by
  cases e with
  | bindings channel' direction' info defects =>
    obtain ⟨rfl, rfl⟩ := Prod.mk.inj (Option.some.inj same)
    obtain rfl : (OperationBindings.read operation.protocolInfo).2 = defects :=
      congrArg Prod.snd (Option.some.inj (read.symm.trans isFrom))
    simp only [Context.absorb, unknown, Option.isSome_none, Bool.false_eq_true, if_false]
    constructor
    · simp only [Context.bindings?] at unknown ⊢
      rw [List.lookup_append, unknown, Option.none_or, List.lookup_cons, beq_self_eq_true]
      rfl
    · rw [warningsAbout_append, warningsAbout_self]
      rfl
  | _ => cases same

/-- Nothing is reported about an operation that has binding information, or that no emission is
about. -/
theorem warningsAbout_absorbAll_of_quiet {c : Context} {es : List Emission}
    (isFrom : ∀ e ∈ es, e.IsFrom d)
    (quiet : (c.bindings? channel direction).isSome = true ∨
      (channel, direction) ∉ es.filterMap Emission.operation?) :
    warningsAbout channel direction (c.absorbAll es).warnings =
      warningsAbout channel direction c.warnings := by
  induction es generalizing c with
  | nil => rfl
  | cons e es ih =>
    obtain ⟨head, tail⟩ := List.forall_mem_cons.1 isFrom
    rw [Context.absorbAll_cons]
    by_cases same : e.operation? = some (channel, direction)
    · rw [List.filterMap_cons_some same] at quiet
      have known := quiet.resolve_right fun notMem => notMem List.mem_cons_self
      rw [absorb_of_known known same]
      exact ih tail (.inl known)
    · rw [ih tail, warningsAbout_absorb_of_ne c head same]
      rw [bindings?_absorb_of_ne c same]
      refine quiet.imp_right fun notMem later => notMem ?_
      obtain ⟨e', mem, eq⟩ := List.mem_filterMap.1 later
      exact List.mem_filterMap.2 ⟨e', List.mem_cons_of_mem _ mem, eq⟩

/-- **What a context reports about an operation.**  However often its binding information is given,
what is wrong with it is reported once. -/
theorem warningsAbout_absorbAll {operation : Operation}
    (read : d.bindings? channel direction = some (OperationBindings.read operation.protocolInfo))
    {c : Context} (unknown : c.bindings? channel direction = none) {es : List Emission}
    (isFrom : ∀ e ∈ es, e.IsFrom d)
    (given : (channel, direction) ∈ es.filterMap Emission.operation?) :
    warningsAbout channel direction (c.absorbAll es).warnings =
      warningsAbout channel direction c.warnings ++ operation.warnings channel direction := by
  induction es generalizing c with
  | nil => cases given
  | cons e es ih =>
    obtain ⟨head, tail⟩ := List.forall_mem_cons.1 isFrom
    rw [Context.absorbAll_cons]
    by_cases same : e.operation? = some (channel, direction)
    · obtain ⟨known, reported⟩ := absorb_of_unknown read unknown head same
      rw [warningsAbout_absorbAll_of_quiet tail (.inl known), reported]
    · rw [ih, warningsAbout_absorb_of_ne c head same]
      · rw [bindings?_absorb_of_ne c same, unknown]
      · exact tail
      · obtain ⟨e', mem, eq⟩ := List.mem_filterMap.1 given
        rcases List.mem_cons.1 mem with rfl | later
        · exact absurd eq same
        · exact List.mem_filterMap.2 ⟨e', later, eq⟩

/-- The first warnings of a compilation are not about binding information. -/
theorem warningsAbout_start (d : Document) (o : Options) :
    warningsAbout channel direction (startContext d o).warnings = [] := by
  refine List.filter_eq_nil_iff.2 fun w mem => ?_
  obtain ⟨server, protocol, rfl⟩ := eq_of_mem_unsupportedServers mem
  exact Bool.false_ne_true

theorem warningsAbout_finish (c : Context) :
    warningsAbout channel direction c.finish.warnings =
      warningsAbout channel direction c.warnings := by
  have conflicts : warningsAbout channel direction (c.properties.conflicts.map .conflict) = [] := by
    refine List.filter_eq_nil_iff.2 fun w mem => ?_
    obtain ⟨k, -, rfl⟩ := List.mem_map.1 mem
    exact Bool.false_ne_true
  rw [Context.warnings_finish, warningsAbout_append, conflicts, List.append_nil]

end Warnings

/-! ## Compilations -/

/-- What becomes of the operations of a document, each on its own. -/
structure Compilation.Isolated (c : Compilation) (d : Document) (o : Options) : Prop where
  /-- The handlers: those of the servers have the settings of an endpoint made from scratch, and
  those to which messages are posted are the same for all documents. -/
  handlers : c.app.triggers.map Trigger.handlerSettings = Protocol.all.flatMap fun p =>
    (if receives d o.role p then (protocolServers p d).map (freshHandlers d o.role p) else []) ++
      if sends d o.role p then [(Gateway.publishTrigger p.profile).handlerSettings] else []
  /-- The services: those of the servers have the settings of an endpoint made from scratch, and
  those of the other steps have none. -/
  services : c.app.resources.map Resource.serviceSettings = Protocol.all.flatMap fun p =>
    (if receives d o.role p then [[.ok ∅, .ok ∅]] else []) ++
      if sends d o.role p then
        [(protocolServers p d).flatMap (freshServices d o.role p) ++ [.ok ∅]]
      else []
  /-- What is wrong with the binding information of an operation that leads to a handler or a
  service is reported once. -/
  reported : ∀ channel direction entry operation,
    (channel, entry, operation) ∈ d.operations direction → d.Yields o.role channel direction →
      warningsAbout channel direction c.warnings = operation.warnings channel direction
  /-- About any other operation nothing is reported. -/
  silent : ∀ channel direction, ¬ d.Yields o.role channel direction →
    warningsAbout channel direction c.warnings = []

/-- **Operations do not share state.** -/
theorem isolated_of_compile {d : Document} {o : Options} {c : Compilation}
    (h : compile d o = .ok c) : c.Isolated d o := by
  have all := (compile_eq_ok_iff.1 h).1
  have collects := collects_of_compile h
  have isFrom : ∀ e ∈ Protocol.all.flatMap fun p => (pass o p d).emitted, e.IsFrom d :=
    fun e mem => isFrom_of_mem_passes mem
  obtain rfl := (compile_eq_ok_iff.1 h).2
  constructor
  case handlers =>
    rw [collects.triggers, List.map_flatMap]
    exact List.flatMap_congr fun p _ => handlerSettings_of_pass (all p)
  case services =>
    rw [collects.resources, List.map_flatMap]
    exact List.flatMap_congr fun p _ => serviceSettings_of_pass (all p)
  case reported =>
    intro channel direction entry operation mem yields
    obtain ⟨inChannels, found⟩ := mem_operations_iff.1 mem
    have given := (mem_operations_of_passes_iff all).2 yields
    rw [warningsAbout_finish, warningsAbout_absorbAll (bindings?_of_mem inChannels found) rfl isFrom
      given, warningsAbout_start, List.nil_append]
  case silent =>
    intro channel direction none
    have notGiven := mt (mem_operations_of_passes_iff all).1 none
    rw [warningsAbout_finish, warningsAbout_absorbAll_of_quiet isFrom (.inr notGiven),
      warningsAbout_start]

/-! ## A channel with two operations -/

/-- An operation with one key in the MQTT section of its binding information. -/
def mqttOperation (key : String) (value : Value) : Operation where
  operationId := none
  summary := none
  description := none
  protocolInfo := some (.object (Dict.ofList
    [("flogo-mqtt", .object (Dict.ofList [(key, value)]))]))
  message := none

/-- A channel whose operations both have something wrong with their binding information. -/
def brokenChannel : Channel where
  description := none
  parameters := .list []
  subscribe := some (mqttOperation "qos" (.text "high"))
  publish := some (mqttOperation "retain" (.bool true))

/-- A document with this channel and some servers. -/
def brokenDocument (servers : List Server) : Document where
  asyncapi := "2.0.0"
  id := none
  info := { title := "broken", version := "1.0.0" }
  servers := .list servers
  channels := Dict.ofList [("door", brokenChannel), ("light", plainChannel)]
  components := none

/-- Three servers, the first of which cannot send. -/
def sharedDocument : Document :=
  brokenDocument [plainServer "stream" "stream:80" "ws",
    plainServer "broker" "broker:1883" "mqtt", plainServer "web" "web.example" "http"]

/-- No server that can send. -/
def receivingDocument : Document :=
  brokenDocument [plainServer "stream" "stream:80" "ws"]

/-- Where nothing can be sent, an outbound operation yields nothing. -/
theorem not_yields_receivingDocument :
    ¬ receivingDocument.Yields .server "door" .publish := by
  generalize direction : Direction.publish = sending
  intro yields
  cases yields with
  | handler server mem => cases direction
  | @service p x entry operation server able mem =>
    cases p with
    | ws => cases able
    | _ => cases server

/-- Two protocols share two operations with defects, each reported once; where nothing is sent, the
outbound one is not read. -/
theorem sharedDocument_isolated :
    (∃ c, compile sharedDocument {} = .ok c ∧ c.Isolated sharedDocument {} ∧
      warningsAbout "door" .subscribe c.warnings =
        [.binding "door" .subscribe (.mistyped .mqtt "qos" .number (.text "high"))] ∧
      warningsAbout "door" .publish c.warnings =
        [.binding "door" .publish (.unknownKey .mqtt "retain")]) ∧
    ∃ c, compile receivingDocument {} = .ok c ∧
      warningsAbout "door" .publish c.warnings = [] := by
  constructor
  · have outcome : (compile sharedDocument {}).toOption.map (fun _ => ()) = some () := by
      decide +kernel
    obtain ⟨c, hc, -⟩ := Trace.exists_ok_of_toOption outcome
    have isolated := isolated_of_compile hc
    have server : (("broker", plainServer "broker" "broker:1883" "mqtt"), 1) ∈
        protocolServers .mqtt sharedDocument := List.mem_cons_self
    have subscribe : ("door", brokenChannel, mqttOperation "qos" (.text "high")) ∈
        sharedDocument.operations .subscribe := List.mem_cons_self
    have publish : ("door", brokenChannel, mqttOperation "retain" (.bool true)) ∈
        sharedDocument.operations .publish := List.mem_cons_self
    exact ⟨c, hc, isolated, isolated.reported _ _ _ _ subscribe (.handler server subscribe),
      isolated.reported _ _ _ _ publish (.service server rfl publish)⟩
  · have outcome : (compile receivingDocument {}).toOption.map (fun _ => ()) = some () := by
      decide +kernel
    obtain ⟨c, hc, -⟩ := Trace.exists_ok_of_toOption outcome
    exact ⟨c, hc, (isolated_of_compile hc).silent "door" .publish not_yields_receivingDocument⟩

end EventGateway
