import EventGateway.Proofs.Pass

/-!
# What a pass contributes

A pass that succeeds has a closed form.  Each server of the protocol contributes what connecting it
emits, its trigger and its imports; the services of all servers go into one microgateway.  Handlers
and services are given per channel, by an endpoint that is made from the server and the channel
alone (`channelEndpoint`).

## Main statements

* `pass_of_ok` — everything that a successful pass emits, binding information apart.
* `triggers_of_pass`, `resources_of_pass`, `methods_of_pass`, `imports_of_pass`,
  `properties_of_pass` — the same, kind by kind.
-/

namespace EventGateway

open AsyncApi
open Flogo (Handler Resource Service Trigger)

/-! ## Channels -/

/-- A server, seen from an operation of a channel. -/
def channelEndpoint (s : Server) (e : Endpoint) (name : String) (c : Channel) (o : Operation) :
    Endpoint :=
  { e with
    topic := resolveTopic name s.baseChannel
    parameters := (ChannelParameter.readAll name c.parameters).toOption.getD []
    bindings := (OperationBindings.read o.protocolInfo).1 }

/-- The handler of a channel for a server, if messages are received from it. -/
def channelHandler (role : Role) (p : Protocol) (s : Server) (e : Endpoint) (name : String)
    (c : Channel) : Option Handler :=
  (c.operation? role.inbound).map fun o => operationHandler p (channelEndpoint s e name c o)

/-- The service of a channel for a server, if messages are sent to it and the protocol can send. -/
def channelService (role : Role) (p : Protocol) (s : Server) (e : Endpoint) (name : String)
    (c : Channel) : Option Service :=
  (c.operation? role.outbound).bind fun o => p.activity.map fun activity =>
    operationService p activity name (channelEndpoint s e name c o)

/-- The parameters of a channel decide whether it can be compiled, and nothing else does. -/
theorem compileChannel_visible (role : Role) (p : Protocol) (s : Server) (e : Endpoint)
    (name : String) (c : Channel) :
    (compileChannel role p s.baseChannel e name c).thin Emission.isVisible =
      Trace.ofExcept ((ChannelParameter.readAll name c.parameters).map fun _ =>
        ⟨channelHandler role p s e name c, channelService role p s e name c⟩) := by
  unfold compileChannel
  cases h : ChannelParameter.readAll name c.parameters with
  | error fault => rfl
  | ok parameters =>
    have read : (ChannelParameter.readAll name c.parameters).toOption.getD [] = parameters := by
      rw [h]
      rfl
    simp only [Trace.thin_bind, Trace.thin_ofExcept, channelHandler, channelService,
      channelEndpoint, read]
    cases inbound : c.operation? role.inbound <;> cases outbound : c.operation? role.outbound <;>
      cases activity : p.activity <;>
      simp only [compileHandler, compileService, inbound, outbound, activity] <;> rfl

/-- A channel fails only with its parameters; handler and service never do. -/
theorem result_compileChannel (role : Role) (p : Protocol) (s : Server) (e : Endpoint)
    (name : String) (c : Channel) :
    (compileChannel role p s.baseChannel e name c).result =
      (ChannelParameter.readAll name c.parameters).map fun _ =>
        ⟨channelHandler role p s e name c, channelService role p s e name c⟩ := by
  exact congrArg Trace.result (compileChannel_visible role p s e name c)

/-! ## Servers -/

/-- The operations of a document in a direction with their channels, ascending by name. -/
def AsyncApi.Document.operations (d : Document) (direction : Direction) :
    List (String × Channel × Operation) :=
  d.channels.entries.filterMap fun (name, c) => (c.operation? direction).map fun o => (name, c, o)

/-- The handlers of a server, one for each operation by which messages are received. -/
def serverHandlers (d : Document) (role : Role) (p : Protocol) (s : Server) (e : Endpoint) :
    List Handler :=
  (d.operations role.inbound).map fun (name, c, o) =>
    operationHandler p (channelEndpoint s e name c o)

/-- The services of a server, one for each operation by which messages are sent. -/
def serverServices (d : Document) (role : Role) (p : Protocol) (s : Server) (e : Endpoint) :
    List Service :=
  p.activity.toList.flatMap fun activity =>
    (d.operations role.outbound).map fun (name, c, o) =>
      operationService p activity name (channelEndpoint s e name c o)

/-- What the channels contribute to a server. -/
def serverParts (d : Document) (role : Role) (p : Protocol) (s : Server) (e : Endpoint) :
    List ChannelParts :=
  d.channels.entries.map fun (name, c) =>
    ⟨channelHandler role p s e name c, channelService role p s e name c⟩

/-- The handlers among the parts of a server. -/
theorem filterMap_handler_serverParts (d : Document) (role : Role) (p : Protocol) (s : Server)
    (e : Endpoint) :
    (serverParts d role p s e).filterMap ChannelParts.handler = serverHandlers d role p s e := by
  rw [serverParts, serverHandlers, Document.operations, List.map_filterMap, List.filterMap_map]
  refine List.filterMap_congr fun x _ => ?_
  simp only [Function.comp_apply, channelHandler, Option.map_map]
  rfl

/-- The services among the parts of a server. -/
theorem filterMap_service_serverParts (d : Document) (role : Role) (p : Protocol) (s : Server)
    (e : Endpoint) :
    (serverParts d role p s e).filterMap ChannelParts.service = serverServices d role p s e := by
  rw [serverParts, serverServices, List.filterMap_map]
  cases activity : p.activity with
  | none =>
    refine List.filterMap_eq_nil_iff.2 fun x _ => ?_
    simp [channelService, activity]
  | some activity' =>
    rw [Option.toList_some, List.flatMap_singleton, Document.operations, List.map_filterMap]
    refine List.filterMap_congr fun x _ => ?_
    cases outbound : x.2.operation? role.outbound <;> simp [channelService, activity, outbound]

/-- The walk through the channels emits nothing visible, and its parts are those of the channels. -/
theorem channels_of_ok {role : Role} {p : Protocol} {d : Document} {s : Server} {e : Endpoint}
    {parts : List ChannelParts}
    (h : (d.channels.entries.mapM fun (name, c) =>
      compileChannel role p s.baseChannel e name c).result = .ok parts) :
    (d.channels.entries.mapM fun (name, c) =>
        compileChannel role p s.baseChannel e name c).thin Emission.isVisible =
      ⟨[], .ok (serverParts d role p s e)⟩ := by
  have each : ∀ x ∈ d.channels.entries,
      ((compileChannel role p s.baseChannel e x.1 x.2).thin
        Emission.isVisible).result =
        .ok ⟨channelHandler role p s e x.1 x.2, channelService role p s e x.1 x.2⟩ := by
    intro x mem
    obtain ⟨parts, ok⟩ := Trace.exists_ok_of_mapM h x mem
    rw [result_compileChannel] at ok
    rw [Trace.result_thin, result_compileChannel]
    cases read : ChannelParameter.readAll x.1 x.2.parameters with
    | error fault =>
      rw [read] at ok
      cases ok
    | ok parameters => rfl
  have silent : (d.channels.entries.flatMap fun x =>
      ((compileChannel role p s.baseChannel e x.1 x.2).thin
        Emission.isVisible).emitted) = [] := by
    simp [compileChannel_visible]
  rw [Trace.thin_mapM, Trace.mapM_of_ok each, silent]
  rfl

/-- What a server contributes besides its connection, given its endpoint. -/
def serverEmissions (d : Document) (o : Options) (p : Protocol) (index : Nat) (s : Server)
    (e : Endpoint) : List Emission :=
  triggerEmissions o p index e (serverHandlers d o.role p s e) ++
    activityEmissions o p e (serverServices d o.role p s e)

/-- **A server that can be compiled** has an endpoint, and what it contributes is made from it. -/
theorem compileServer_of_ok {o : Options} {p : Protocol} {d : Document} {index : Nat}
    {name : String} {s : Server} {parts : ServerParts}
    (h : (compileServer o p d index name s).result = .ok parts) :
    ∃ e, (connect p d index name s).result = .ok e ∧
      (compileServer o p d index name s).thin Emission.isVisible =
        ⟨(connect p d index name s).emitted ++ serverEmissions d o p index s e,
          .ok ⟨!(serverHandlers d o.role p s e).isEmpty, serverServices d o.role p s e⟩⟩ := by
  obtain ⟨e, he, h⟩ := Trace.result_bind_eq_ok.1 h
  obtain ⟨channels, hchannels, -⟩ := Trace.result_bind_eq_ok.1 h
  have connected : (connect p d index name s).thin Emission.isVisible =
      connect p d index name s :=
    Trace.thin_eq_self fun e mem => isVisible_of_connects (connect_emits p d index name s e mem)
  have visible : ∀ em ∈ serverEmissions d o p index s e, em.isVisible = true :=
    fun em mem => isVisible_of_isPart (isPart_of_mem_serverEmissions mem)
  have tail : ∀ parts : ServerParts,
      (do Trace.emitAll (serverEmissions d o p index s e); return parts).thin Emission.isVisible =
        ⟨serverEmissions d o p index s e, .ok parts⟩ := by
    intro parts
    rw [Trace.thin_eq_self]
    · exact Trace.ext (List.append_nil _) rfl
    · simpa [Trace.bind_of_ok] using visible
  -- Step by step: the connection stays as it is, the channels leave nothing, the tail stays.
  refine ⟨e, he, ?_⟩
  rw [compileServer, Trace.thin_bind, connected, Trace.bind_of_ok he, Trace.thin_bind,
    channels_of_ok hchannels, Trace.bind_of_ok rfl]
  simp only [filterMap_handler_serverParts, filterMap_service_serverParts, List.nil_append]
  rw [← serverEmissions, tail]

/-! ## Passes -/

/-- A server with its name and its position. -/
abbrev PlacedServer := (String × Server) × Nat

/-- Connecting a server at its place. -/
def connection (p : Protocol) (d : Document) (x : PlacedServer) : Trace Endpoint :=
  connect p d x.2 x.1.1 x.1.2

/-- The endpoint of a server without channel, if it can be connected. -/
def endpointOf (p : Protocol) (d : Document) (x : PlacedServer) : Endpoint :=
  (connection p d x).result.toOption.getD { protocol := p.name, serverIndex := x.2, url := "" }

/-- The handlers of a server at its place. -/
def placedHandlers (d : Document) (role : Role) (p : Protocol) (x : PlacedServer) : List Handler :=
  serverHandlers d role p x.1.2 (endpointOf p d x)

/-- The services of a server at its place. -/
def placedServices (d : Document) (role : Role) (p : Protocol) (x : PlacedServer) : List Service :=
  serverServices d role p x.1.2 (endpointOf p d x)

/-- What a server at its place contributes. -/
def placedEmissions (d : Document) (o : Options) (p : Protocol) (x : PlacedServer) :
    List Emission :=
  (connection p d x).emitted ++ serverEmissions d o p x.2 x.1.2 (endpointOf p d x)

/-- What a pass contributes. -/
def passEmissions (d : Document) (o : Options) (p : Protocol) : List Emission :=
  (protocolServers p d).flatMap (placedEmissions d o p) ++
    Gateway.assemble p.profile
      ((protocolServers p d).any fun x => !(placedHandlers d o.role p x).isEmpty)
      ((protocolServers p d).flatMap (placedServices d o.role p))

/-- The endpoint of a server, if it can be connected. -/
theorem endpointOf_eq {p : Protocol} {d : Document} {x : PlacedServer} {e : Endpoint}
    (h : (connection p d x).result = .ok e) : endpointOf p d x = e := by
  rw [endpointOf, h]
  rfl

/-- The servers of a pass that succeeds can be connected, and what they contribute is made from
their endpoints. -/
theorem servers_of_pass {o : Options} {p : Protocol} {d : Document}
    (h : (pass o p d).result = .ok ()) {x : PlacedServer} (mem : x ∈ protocolServers p d) :
    (connection p d x).result = .ok (endpointOf p d x) ∧
      (compileServer o p d x.2 x.1.1 x.1.2).thin Emission.isVisible =
        ⟨placedEmissions d o p x,
          .ok ⟨!(placedHandlers d o.role p x).isEmpty, placedServices d o.role p x⟩⟩ := by
  obtain ⟨parts, hparts, -⟩ := Trace.result_bind_eq_ok.1 h
  obtain ⟨parts, ok⟩ := Trace.exists_ok_of_mapM hparts x mem
  obtain ⟨e, he, visible⟩ := compileServer_of_ok ok
  have eq : endpointOf p d x = e := endpointOf_eq he
  refine ⟨eq ▸ he, ?_⟩
  rw [visible, placedEmissions, placedHandlers, placedServices, eq]
  rfl

/-- **What a pass that succeeds emits** besides binding information is `passEmissions`. -/
theorem pass_of_ok {o : Options} {p : Protocol} {d : Document}
    (h : (pass o p d).result = .ok ()) :
    (pass o p d).emitted.filter Emission.isVisible = passEmissions d o p := by
  have assembled : ∀ hasTriggers services,
      (Trace.emitAll (Gateway.assemble p.profile hasTriggers services)).thin Emission.isVisible =
        Trace.emitAll (Gateway.assemble p.profile hasTriggers services) :=
    fun _ _ => Trace.thin_eq_self fun e mem => isVisible_of_isPart (isPart_of_mem_assemble mem)
  have walk : ((protocolServers p d).mapM fun x =>
      (compileServer o p d x.2 x.1.1 x.1.2).thin Emission.isVisible) =
      ⟨(protocolServers p d).flatMap (placedEmissions d o p),
        .ok ((protocolServers p d).map fun x =>
          ⟨!(placedHandlers d o.role p x).isEmpty, placedServices d o.role p x⟩)⟩ := by
    rw [Trace.mapM_congr fun x mem => (servers_of_pass h mem).2]
    exact Trace.mapM_of_ok fun x _ => rfl
  rw [← Trace.emitted_thin, pass, Trace.thin_bind, Trace.thin_mapM, walk,
    Trace.bind_of_ok rfl, assembled, List.any_map, List.flatMap_map]
  rfl

/-! ## Kind by kind -/

section Kinds

variable {d : Document} {o : Options} {p : Protocol}

/-- Connecting a server emits nothing but properties and warnings. -/
theorem items_connection {α : Type} {item? : Emission → Option α}
    (property : ∀ q, item? (.property q) = none) (warning : ∀ w, item? (.warning w) = none)
    (x : PlacedServer) : (connection p d x).items item? = [] := by
  refine List.filterMap_eq_nil_iff.2 fun e mem => ?_
  have connects := connect_emits p d x.2 x.1.1 x.1.2 e mem
  cases e with
  | property q => exact property q
  | warning w => exact warning w
  | _ => exact connects.elim

/-- The trigger of a server at its place. -/
def placedTrigger (d : Document) (role : Role) (p : Protocol) (x : PlacedServer) : Trigger :=
  serverTrigger p x.2 (endpointOf p d x) (placedHandlers d role p x)

/-- Whether messages are received for a protocol: it has servers, and some channel is inbound. -/
def receives (d : Document) (role : Role) (p : Protocol) : Bool :=
  !(protocolServers p d).isEmpty && !(d.operations role.inbound).isEmpty

/-- Whether messages are sent for a protocol: it has servers and can send, and some channel is
outbound. -/
def sends (d : Document) (role : Role) (p : Protocol) : Bool :=
  !(protocolServers p d).isEmpty && p.activity.isSome &&
    !(d.operations role.outbound).isEmpty

/-- A server has handlers if the document has inbound operations. -/
theorem isEmpty_serverHandlers (s : Server) (e : Endpoint) (role : Role) :
    (serverHandlers d role p s e).isEmpty = (d.operations role.inbound).isEmpty := by
  rw [serverHandlers, List.isEmpty_map]

/-- A server has services if its protocol can send and the document has outbound operations. -/
theorem isEmpty_serverServices (s : Server) (e : Endpoint) (role : Role) :
    (serverServices d role p s e).isEmpty =
      !(p.activity.isSome && !(d.operations role.outbound).isEmpty) := by
  unfold serverServices
  cases p.activity with
  | none => rfl
  | some activity => simp

/-- Some server of a protocol has handlers if messages are received. -/
theorem any_placedHandlers (role : Role) :
    ((protocolServers p d).any fun x => !(placedHandlers d role p x).isEmpty) =
      receives d role p := by
  unfold receives placedHandlers
  simp only [isEmpty_serverHandlers]
  cases protocolServers p d with
  | nil => rfl
  | cons x xs => cases (d.operations role.inbound).isEmpty <;> simp

/-- Some server of a protocol has services if messages are sent. -/
theorem isEmpty_flatMap_placedServices (role : Role) :
    ((protocolServers p d).flatMap (placedServices d role p)).isEmpty = !sends d role p := by
  rw [Bool.eq_iff_iff, List.isEmpty_iff, List.flatMap_eq_nil_iff]
  simp only [← List.isEmpty_iff, placedServices, isEmpty_serverServices]
  unfold sends
  cases protocolServers p d with
  | nil => simp
  | cons x xs =>
    simp only [List.forall_mem_cons, List.isEmpty_cons]
    refine ⟨fun ⟨head, _⟩ => head, fun able => ⟨able, fun _ _ => able⟩⟩

/-- What a server contributes besides its connection, by what the protocol does. -/
def placedParts (d : Document) (o : Options) (p : Protocol) (x : PlacedServer) : List Emission :=
  (if receives d o.role p then
      [.importing (triggerImport o.catalog p (endpointOf p d x).extensions),
        .trigger (placedTrigger d o.role p x)]
    else []) ++
    if sends d o.role p then
      p.activity.toList.map fun activity =>
        .importing (activityImport o.catalog p activity (endpointOf p d x).extensions)
    else []

/-- What a server emits: its connection, then its parts. -/
theorem placedEmissions_of_mem {x : PlacedServer} (mem : x ∈ protocolServers p d) :
    placedEmissions d o p x = (connection p d x).emitted ++ placedParts d o p x := by
  have some : (protocolServers p d).isEmpty = false := by
    simpa using List.ne_nil_of_mem mem
  have trigger : triggerEmissions o p x.2 (endpointOf p d x) (placedHandlers d o.role p x) =
      if receives d o.role p then
        [.importing (triggerImport o.catalog p (endpointOf p d x).extensions),
          .trigger (placedTrigger d o.role p x)]
      else [] := by
    rw [triggerEmissions_eq, placedHandlers, isEmpty_serverHandlers, receives, some]
    cases (d.operations o.role.inbound).isEmpty <;> rfl
  have activity : activityEmissions o p (endpointOf p d x) (placedServices d o.role p x) =
      if sends d o.role p then
        p.activity.toList.map fun activity =>
          .importing (activityImport o.catalog p activity (endpointOf p d x).extensions)
      else [] := by
    rw [activityEmissions_eq, placedServices, isEmpty_serverServices, sends, some]
    cases p.activity with
    | none => rfl
    | some activity => cases (d.operations o.role.outbound).isEmpty <;> rfl
  rw [placedParts, ← trigger, ← activity]
  rfl

/-- What a pass contributes after its servers: its microgateways. -/
def gatewayEmissions (d : Document) (o : Options) (p : Protocol) : List Emission :=
  (if receives d o.role p then
      [.resource (Gateway.inbound p.name), .method (Gateway.methodName p.name),
        .importing Gateway.microgatewayRef, .importing Gateway.logRef,
        .importing Gateway.methodInvokerRef]
    else []) ++
    if sends d o.role p then
      [.trigger (Gateway.publishTrigger p.profile),
        .resource (Gateway.outbound p.name
          ((protocolServers p d).flatMap (placedServices d o.role p))),
        .importing Gateway.microgatewayRef, .importing Gateway.logRef,
        .importing Gateway.restTriggerRef]
    else []

/-- What a pass emits: its servers in order, then the resources. -/
theorem passEmissions_eq :
    passEmissions d o p =
      (protocolServers p d).flatMap (placedEmissions d o p) ++ gatewayEmissions d o p := by
  rw [passEmissions, any_placedHandlers, Gateway.assemble, Gateway.outboundEmissions,
    isEmpty_flatMap_placedServices, Gateway.inboundEmissions, gatewayEmissions]
  cases sends d o.role p <;> rfl

/-- The items of one kind of a successful pass: those of the servers in a row, then those of the
microgateways. -/
theorem items_of_pass (h : (pass o p d).result = .ok ()) {α : Type} {item? : Emission → Option α}
    (bindings : ∀ channel direction info defects,
      item? (.bindings channel direction info defects) = none) :
    (pass o p d).items item? =
      (protocolServers p d).flatMap (fun x =>
        (connection p d x).items item? ++ (placedParts d o p x).filterMap item?) ++
        (gatewayEmissions d o p).filterMap item? := by
  have hidden : ∀ e : Emission, e.isVisible = false → item? e = none := by
    intro e invisible
    cases e with
    | bindings channel direction info defects => exact bindings channel direction info defects
    | _ => cases invisible
  have each : ∀ x ∈ protocolServers p d, (placedEmissions d o p x).filterMap item? =
      (connection p d x).items item? ++ (placedParts d o p x).filterMap item? := by
    intro x mem
    rw [placedEmissions_of_mem mem, List.filterMap_append, Trace.items]
  rw [Trace.items, ← filterMap_visible hidden, pass_of_ok h, passEmissions_eq,
    List.filterMap_append, List.filterMap_flatMap, List.flatMap_congr each]

/-- Items that connecting a server does not emit come from the other parts of the servers. -/
theorem items_of_pass_of_parts (h : (pass o p d).result = .ok ()) {α : Type}
    {item? : Emission → Option α}
    (bindings : ∀ channel direction info defects,
      item? (.bindings channel direction info defects) = none)
    (property : ∀ q, item? (.property q) = none) (warning : ∀ w, item? (.warning w) = none)
    {items : PlacedServer → List α} (each : ∀ x, (placedParts d o p x).filterMap item? = items x) :
    (pass o p d).items item? =
      (protocolServers p d).flatMap items ++ (gatewayEmissions d o p).filterMap item? := by
  simp only [items_of_pass h bindings, items_connection property warning, List.nil_append, each]

/-- **The triggers of a pass**: one for each server, and the one for publishing by hand. -/
theorem triggers_of_pass (h : (pass o p d).result = .ok ()) :
    (pass o p d).items Emission.trigger? =
      (if receives d o.role p then (protocolServers p d).map (placedTrigger d o.role p) else []) ++
        if sends d o.role p then [Gateway.publishTrigger p.profile] else [] := by
  have each : ∀ x, (placedParts d o p x).filterMap Emission.trigger? =
      if receives d o.role p then [placedTrigger d o.role p x] else [] := by
    intro x
    unfold placedParts
    cases receives d o.role p <;> cases sends d o.role p <;> cases p.activity <;> rfl
  rw [items_of_pass_of_parts h (fun _ _ _ _ => rfl) (fun _ => rfl) (fun _ => rfl) each,
    gatewayEmissions]
  cases receives d o.role p <;> cases sends d o.role p <;>
    simp [List.filterMap_cons, Emission.trigger?, List.map_eq_flatMap]

/-- **The resources of a pass**: at most one for each direction. -/
theorem resources_of_pass (h : (pass o p d).result = .ok ()) :
    (pass o p d).items Emission.resource? =
      (if receives d o.role p then [Gateway.inbound p.name] else []) ++
        if sends d o.role p then
          [Gateway.outbound p.name ((protocolServers p d).flatMap (placedServices d o.role p))]
        else [] := by
  have each : ∀ x, (placedParts d o p x).filterMap Emission.resource? = [] := by
    intro x
    unfold placedParts
    cases receives d o.role p <;> cases sends d o.role p <;> cases p.activity <;> rfl
  rw [items_of_pass_of_parts h (fun _ _ _ _ => rfl) (fun _ => rfl) (fun _ => rfl) each,
    gatewayEmissions]
  cases receives d o.role p <;> cases sends d o.role p <;>
    simp [List.filterMap_cons, Emission.resource?]

/-- The identifiers of the triggers of a pass. -/
theorem triggerIds_of_pass (h : (pass o p d).result = .ok ()) :
    ((pass o p d).items Emission.trigger?).map Trigger.id =
      (if receives d o.role p then (protocolServers p d).map fun x => serverLabel p x.2 else []) ++
        if sends d o.role p then [Gateway.publishName p.name] else [] := by
  rw [triggers_of_pass h, List.map_append]
  congr 1
  · split
    · rw [List.map_map]
      rfl
    · rfl
  · split <;> rfl

/-- The identifiers of the resources of a pass. -/
theorem resourceIds_of_pass (h : (pass o p d).result = .ok ()) :
    ((pass o p d).items Emission.resource?).map Resource.id =
      (if receives d o.role p then [Gateway.resourceId p.name] else []) ++
        if sends d o.role p then [Gateway.resourceId (Gateway.publishName p.name)] else [] := by
  rw [resources_of_pass h, List.map_append]
  congr 1 <;> split <;> rfl

/-- **The methods of a pass**: at most one. -/
theorem methods_of_pass (h : (pass o p d).result = .ok ()) :
    (pass o p d).items Emission.method? =
      if receives d o.role p then [Gateway.methodName p.name] else [] := by
  have each : ∀ x, (placedParts d o p x).filterMap Emission.method? = [] := by
    intro x
    unfold placedParts
    cases receives d o.role p <;> cases sends d o.role p <;> cases p.activity <;> rfl
  rw [items_of_pass_of_parts h (fun _ _ _ _ => rfl) (fun _ => rfl) (fun _ => rfl) each,
    gatewayEmissions]
  cases receives d o.role p <;> cases sends d o.role p <;>
    simp [List.filterMap_cons, Emission.method?]

/-- The methods of a pass are named for the protocol. -/
theorem method_eq_of_pass (h : (pass o p d).result = .ok ()) {name : String}
    (mem : name ∈ (pass o p d).items Emission.method?) : ∃ rest, name = "" ++ (p.name ++ rest) := by
  rw [methods_of_pass h] at mem
  split at mem
  · obtain rfl := List.mem_singleton.1 mem
    exact ⟨"Method", String.empty_append.symm⟩
  · cases mem

/-- The imports for a server: the trigger module if messages are received, the activity module if
messages are sent. -/
def placedImports (d : Document) (o : Options) (p : Protocol) (x : PlacedServer) : List String :=
  (if receives d o.role p then
      [triggerImport o.catalog p (endpointOf p d x).extensions]
    else []) ++
    if sends d o.role p then
      p.activity.toList.map fun activity =>
        activityImport o.catalog p activity (endpointOf p d x).extensions
    else []

/-- The imports for the microgateways of a protocol. -/
def gatewayImports (d : Document) (role : Role) (p : Protocol) : List String :=
  (if receives d role p then
      [Gateway.microgatewayRef, Gateway.logRef, Gateway.methodInvokerRef]
    else []) ++
    if sends d role p then [Gateway.microgatewayRef, Gateway.logRef, Gateway.restTriggerRef]
    else []

/-- **The imports of a pass**: those of its servers in order, then those of the resources. -/
theorem imports_of_pass (h : (pass o p d).result = .ok ()) :
    (pass o p d).items Emission.importing? =
      (protocolServers p d).flatMap (placedImports d o p) ++ gatewayImports d o.role p := by
  have each : ∀ x, (placedParts d o p x).filterMap Emission.importing? = placedImports d o p x := by
    intro x
    unfold placedParts placedImports
    cases receives d o.role p <;> cases sends d o.role p <;> cases p.activity <;> rfl
  rw [items_of_pass_of_parts h (fun _ _ _ _ => rfl) (fun _ => rfl) (fun _ => rfl) each,
    gatewayEmissions, gatewayImports]
  cases receives d o.role p <;> cases sends d o.role p <;> rfl

/-- Properties, in contrast, come from the connections alone. -/
theorem properties_of_pass (h : (pass o p d).result = .ok ()) :
    (pass o p d).items Emission.property? =
      (protocolServers p d).flatMap fun x => (connection p d x).items Emission.property? := by
  have parts : ∀ x, (placedParts d o p x).filterMap Emission.property? = [] := by
    intro x
    unfold placedParts
    cases receives d o.role p <;> cases sends d o.role p <;> cases p.activity <;> rfl
  have gateway : (gatewayEmissions d o p).filterMap Emission.property? = [] := by
    unfold gatewayEmissions
    cases receives d o.role p <;> cases sends d o.role p <;> rfl
  rw [items_of_pass h, gateway]
  · simp only [parts, List.append_nil]
  · exact fun _ _ _ _ => rfl

end Kinds

end EventGateway
