import EventGateway.Compile.Pass

/-!
# Plain passes

What a pass of one of the five protocols emits can be said without a context, and without an
endpoint that changes on the way.  Here every operation gets an endpoint of its own, made from that
of the server, and its binding information is read whenever it is needed.  A plain pass is a trace;
that passes on a context take up these traces, and nothing else, is proved in `Proofs.Pass`.

The parts of a plain pass are named by the protocol.  They are those of its binding, but for the
modules of the engine, which are given here as module paths.
-/

namespace EventGateway

open AsyncApi
open Flogo (Handler Service Trigger)

/-! ## Parts -/

/-- The binding information of an operation. -/
def readBindings (channel : String) (direction : Direction) (o : Operation) :
    Trace OperationBindings := do
  let (info, defects) := OperationBindings.read o.protocolInfo
  Trace.emit (.bindings channel direction info defects)
  return info

/-- The handler of an operation. -/
def operationHandler (p : Protocol) (e : Endpoint) : Handler :=
  p.binding.handler e

/-- The service of an operation of a channel. -/
def operationService (p : Protocol) (activity : ModulePath) (channel : String) (e : Endpoint) :
    Service :=
  p.binding.service activity.reference channel e

/-- The name of a server in identifiers. -/
def serverLabel (p : Protocol) (index : Nat) : String :=
  p.name ++ toString index

/-- The endpoint of a server without channel. -/
def connect (p : Protocol) (d : Document) (index : Nat) (name : String) (s : Server) :
    Trace Endpoint :=
  p.binding.connect d index name s

/-- Connecting a server of one of the protocols, step by step. -/
theorem connect_eq (p : Protocol) (d : Document) (index : Nat) (name : String) (s : Server) :
    connect p d index name s = (do
      let extensions ← Trace.ofExcept
        (ServerExtensions.read ("server " ++ name) s.extensions p.profile.connectionExtensions)
      Trace.emitAll ((serverProperties (serverLabel p index) s).map .property)
      let url ← connectUrl (serverLabel p index) name s
      let port ← connectPort (serverLabel p index) s
      return {
        protocol := p.name
        serverIndex := index
        secure := s.protocol == p.profile.secure
        userPassword := d.usesUserPassword s
        url
        port
        extensions }) := rfl

/-- The trigger of a server. -/
def serverTrigger (p : Protocol) (index : Nat) (e : Endpoint) (handlers : List Handler) : Trigger :=
  { p.binding.trigger index e with handlers }

/-- The import of the trigger module, at the version that the server or else the catalog names. -/
def triggerImport (catalog : Catalog) (p : Protocol) (x : ServerExtensions) : String :=
  p.trigger.importAt (x.triggerVersion.or (catalog.triggerVersion? p.name))

/-- The import of an activity module, at the version that the server or else the catalog names. -/
def activityImport (catalog : Catalog) (p : Protocol) (activity : ModulePath)
    (x : ServerExtensions) : String :=
  activity.importAt (x.activityVersion.or (catalog.activityVersion? p.name))

/-- The servers of a document that speak a protocol, with their positions and names. -/
def protocolServers (p : Protocol) (d : Document) : List ((String × Server) × Nat) :=
  d.servers.servers.zipIdx.filter fun ((_, s), _) => p.isNamedBy s.protocol

/-- The trigger of a server and its import, unless there is nothing to handle. -/
def triggerEmissions (o : Options) (p : Protocol) (index : Nat) (e : Endpoint)
    (handlers : List Handler) : List Emission :=
  p.binding.triggerEmissions o.catalog e.extensions (serverTrigger p index e handlers)

/-- The import of the activity module for the services of a server, unless there are none. -/
def activityEmissions (o : Options) (p : Protocol) (e : Endpoint) (services : List Service) :
    List Emission :=
  p.binding.activityEmissions o.catalog e.extensions services

/-- A trigger is emitted after its import, and only with handlers. -/
theorem triggerEmissions_eq (o : Options) (p : Protocol) (index : Nat) (e : Endpoint)
    (handlers : List Handler) :
    triggerEmissions o p index e handlers =
      if handlers.isEmpty then []
      else [.importing (triggerImport o.catalog p e.extensions),
        .trigger (serverTrigger p index e handlers)] := rfl

/-- An activity is imported only for services. -/
theorem activityEmissions_eq (o : Options) (p : Protocol) (e : Endpoint)
    (services : List Service) :
    activityEmissions o p e services =
      if services.isEmpty then []
      else p.activity.toList.map fun activity =>
        .importing (activityImport o.catalog p activity e.extensions) := by
  unfold activityEmissions Binding.activityEmissions Binding.pinnedActivity activityImport
  simp only [Protocol.binding, Option.toList_map, List.map_map]
  rfl

/-! ## Passes -/

/-- What a channel contributes to a server. -/
structure ChannelParts where
  handler : Option Handler
  service : Option Service

/-- The handler of a channel, if messages are received from it. -/
def compileHandler (role : Role) (p : Protocol) (e : Endpoint) (name : String) (c : Channel) :
    Trace (Option Handler) :=
  match c.operation? role.inbound with
  | none => pure none
  | some o => do
    let bindings ← readBindings name role.inbound o
    return some (operationHandler p { e with bindings })

/-- The service of a channel, if messages are sent to it and the protocol can send. -/
def compileService (role : Role) (p : Protocol) (e : Endpoint) (name : String) (c : Channel) :
    Trace (Option Service) :=
  match c.operation? role.outbound, p.activity with
  | some o, some activity => do
    let bindings ← readBindings name role.outbound o
    return some (operationService p activity name { e with bindings })
  | _, _ => pure none

/-- Compiles a channel for a server, which is given by its endpoint without channel. -/
def compileChannel (role : Role) (p : Protocol) (base : Option String) (e : Endpoint)
    (name : String) (c : Channel) : Trace ChannelParts := do
  let parameters ← Trace.ofExcept (ChannelParameter.readAll name c.parameters)
  let e := { e with topic := resolveTopic name base, parameters }
  let handler ← compileHandler role p e name c
  let service ← compileService role p e name c
  return ⟨handler, service⟩

/-- Compiles a server. -/
def compileServer (o : Options) (p : Protocol) (d : Document) (index : Nat) (name : String)
    (s : Server) : Trace ServerParts := do
  let e ← connect p d index name s
  let parts ← d.channels.entries.mapM fun (channel, c) =>
    compileChannel o.role p s.baseChannel e channel c
  let handlers := parts.filterMap ChannelParts.handler
  let services := parts.filterMap ChannelParts.service
  Trace.emitAll (triggerEmissions o p index e handlers ++ activityEmissions o p e services)
  return ⟨!handlers.isEmpty, services⟩

/-- The pass of a protocol. -/
def pass (o : Options) (p : Protocol) (d : Document) : Trace Unit := do
  let parts ← (protocolServers p d).mapM fun ((name, s), index) => compileServer o p d index name s
  Trace.emitAll (Gateway.assemble p.profile (parts.any ServerParts.hasTrigger)
    (parts.flatMap ServerParts.services))

end EventGateway
