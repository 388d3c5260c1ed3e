import EventGateway.Compile.Connection
import EventGateway.Compile.Gateway
import EventGateway.Compile.Options
import EventGateway.Compile.Topic
import EventGateway.Protocol.Binding

/-!
# Passes

A pass compiles the servers of one protocol.  Every server gets a trigger with a handler for each
channel whose messages are received, unless there is none; the services for the channels to which
messages are sent are collected from all servers and put into one microgateway.

The endpoint of a server is made once and goes from channel to channel: topic, parameters and
binding information are overwritten for every operation.  The binding information of an operation is
read by the first server that has to do with it, of whatever protocol, and looked up by all others.
-/

namespace EventGateway

open AsyncApi
open Flogo (Handler Service Settings Trigger)

/-- What a handler passes on: the topic, the message, and parameters if the protocol has them. -/
def handlerInput (p : Profile) (topic : String) : Settings :=
  (∅ : Settings).insert "channel" (.text ("='" ++ topic ++ "'"))
    |>.insert "message" (.text ("=$." ++ p.contentPath))
    |>.insert? "params" (p.paramsPath.map fun path => .text ("=$." ++ path))

namespace Binding

/-- The name of a server in identifiers: the protocol with the position of the server. -/
def label (b : Binding) (index : Nat) : String :=
  b.profile.name ++ toString index

/-- The handler of an operation. -/
def handler (b : Binding) (e : Endpoint) : Handler where
  settings := b.handlerSettings e
  actions := [Gateway.start (Gateway.resourceId b.profile.name) (handlerInput b.profile e.topic)]

/-- The service of an operation of a channel, by an activity. -/
def service (b : Binding) (activity channel : String) (e : Endpoint) : Service where
  name := b.profile.name ++ "-name-" ++ channel
  ref := activity
  description := b.profile.name ++ " service"
  settings := b.serviceSettings e

/-- The trigger of a server, without handlers. -/
def trigger (b : Binding) (index : Nat) (e : Endpoint) : Trigger where
  id := b.label index
  ref := b.triggerRef
  settings := b.triggerSettings e
  handlers := []

/-- The import of the trigger module, at the version that the server or else the catalog names. -/
def pinnedTrigger (b : Binding) (catalog : Catalog) (x : ServerExtensions) : String :=
  b.triggerImport (x.triggerVersion.or (catalog.triggerVersion? b.profile.name))

/-- The import of the activity module, at the version that the server or else the catalog names. -/
def pinnedActivity (b : Binding) (catalog : Catalog) (x : ServerExtensions) : Option String :=
  b.activityImport (x.activityVersion.or (catalog.activityVersion? b.profile.name))

/-- The trigger of a server and its import, unless there is nothing to handle. -/
def triggerEmissions (b : Binding) (catalog : Catalog) (x : ServerExtensions) (t : Trigger) :
    List Emission :=
  if t.handlers.isEmpty then [] else [.importing (b.pinnedTrigger catalog x), .trigger t]

/-- The import of the activity module for the services of a server, unless there are none. -/
def activityEmissions (b : Binding) (catalog : Catalog) (x : ServerExtensions)
    (services : List Service) : List Emission :=
  if services.isEmpty then [] else (b.pinnedActivity catalog x).toList.map .importing

/-- The servers of a document that speak the protocol, with their positions and names. -/
def servers (b : Binding) (d : Document) : List ((String × Server) × Nat) :=
  d.servers.servers.zipIdx.filter fun ((_, s), _) => b.profile.isNamedBy s.protocol

/-- The endpoint of a server before any channel. -/
def connect (b : Binding) (d : Document) (index : Nat) (name : String) (s : Server) :
    Trace Endpoint := do
  let extensions ← Trace.ofExcept
    (ServerExtensions.read ("server " ++ name) s.extensions b.profile.connectionExtensions)
  let label := b.label index
  Trace.emitAll ((serverProperties label s).map .property)
  let url ← connectUrl label name s
  let port ← connectPort label s
  return {
    protocol := b.profile.name
    serverIndex := index
    secure := s.protocol == b.profile.secure
    userPassword := d.usesUserPassword s
    url
    port
    extensions }

end Binding

/-- The binding information of an operation: what the context has about it, or else what is read
now. -/
def operationBindings (channel : String) (direction : Direction) (o : Operation) :
    CompileM OperationBindings := do
  match (← get).bindings? channel direction with
  | some info => return info
  | none =>
    let (info, defects) := OperationBindings.read o.protocolInfo
    CompileM.emit (.bindings channel direction info defects)
    return info

/-- A server on its way through the channels. -/
structure ServerState where
  /-- The endpoint, as the last operation has left it. -/
  endpoint : Endpoint
  handlers : List Handler := []
  services : List Service := []

/-- Adds the handler of a channel, if messages are received from it. -/
def lowerHandler (role : Role) (b : Binding) (name : String) (c : Channel) (state : ServerState) :
    CompileM ServerState :=
  match c.operation? role.inbound with
  | none => return state
  | some o => do
    let bindings ← operationBindings name role.inbound o
    let endpoint := { state.endpoint with bindings }
    return { state with endpoint, handlers := state.handlers ++ [b.handler endpoint] }

/-- Adds the service of a channel, if messages are sent to it and the protocol can send. -/
def lowerService (role : Role) (b : Binding) (name : String) (c : Channel) (state : ServerState) :
    CompileM ServerState :=
  match c.operation? role.outbound, b.activityRef with
  | some o, some activity => do
    let bindings ← operationBindings name role.outbound o
    let endpoint := { state.endpoint with bindings }
    return { state with
      endpoint, services := state.services ++ [b.service activity name endpoint] }
  | _, _ => return state

/-- Takes a server through a channel. -/
def lowerChannel (role : Role) (b : Binding) (base : Option String) (state : ServerState) :
    String × Channel → CompileM ServerState
  | (name, c) => do
    let parameters ← CompileM.ofExcept (ChannelParameter.readAll name c.parameters)
    let endpoint := { state.endpoint with topic := resolveTopic name base, parameters }
    let state ← lowerHandler role b name c { state with endpoint }
    lowerService role b name c state

/-- What a server contributes to its protocol. -/
structure ServerParts where
  hasTrigger : Bool
  services : List Service

/-- Compiles a server. -/
def lowerServer (o : Options) (b : Binding) (d : Document) (index : Nat) (name : String)
    (s : Server) : CompileM ServerParts := do
  let endpoint ← CompileM.ofTrace (b.connect d index name s)
  let trigger := b.trigger index endpoint
  let state ← d.channels.entries.foldlM (lowerChannel o.role b s.baseChannel) { endpoint }
  CompileM.emitAll <|
    b.triggerEmissions o.catalog state.endpoint.extensions
        { trigger with handlers := state.handlers } ++
      b.activityEmissions o.catalog state.endpoint.extensions state.services
  return ⟨!state.handlers.isEmpty, state.services⟩

/-- Compiles all servers of a protocol. -/
def lowerProtocol (o : Options) (b : Binding) (d : Document) : CompileM Unit := do
  let parts ← (b.servers d).mapM fun ((name, s), index) => lowerServer o b d index name s
  CompileM.emitAll (Gateway.assemble b.profile (parts.any ServerParts.hasTrigger)
    (parts.flatMap ServerParts.services))

/-- Runs a pass on a context. -/
def Context.lower (c : Context) (o : Options) (b : Binding) (d : Document) :
    Context × Except Fault Unit :=
  (lowerProtocol o b d).outcome c

/-- The servers that no pass looks at. -/
def unsupportedServers (d : Document) : List Warning :=
  d.servers.servers.filterMap fun (name, s) =>
    if (Protocol.ofIdentifier? s.protocol).isNone then some (.unsupportedProtocol name s.protocol)
    else none

/-- The context from which the compilation of a document starts. -/
def startContext (d : Document) (o : Options) : Context where
  app := Flogo.App.new d.appName (d.info.description.getD "") o.appVersion o.appModel
  warnings := unsupportedServers d

/-- Compiles a document: the passes of all protocols, up to the first fault. -/
def compile (d : Document) (o : Options) : Except Fault Compilation :=
  match (Protocol.all.forM fun p => lowerProtocol o p.binding d).outcome (startContext d o) with
  | (c, .ok ()) => .ok c.finish
  | (_, .error fault) => .error fault

end EventGateway
