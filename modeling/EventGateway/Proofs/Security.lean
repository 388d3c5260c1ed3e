import EventGateway.Proofs.Pins
import EventGateway.Proofs.SecuritySettings
import EventGateway.Proofs.ServiceNames

/-!
# Security of a compilation

Which security settings a trigger or a service has is up to its server: TLS settings are there if
the server names the secure variant of its protocol, and user and password if a security requirement
of it names a scheme of that kind.  The two flags about verification are up to the extensions of the
server for a trigger, and up to the binding information of the operation for a service.  Values that
are secret are references to the environment, whatever the document says.

## Main statements

* `triggerPolicy_endpointOf`, `servicePolicy_channelEndpoint` — where the flags are from.
* `secured_of_compile` — the security settings of all triggers and services of a compilation.
-/

namespace EventGateway

open AsyncApi
open Flogo (Resource Trigger)

/-! ## What a document says about security -/

/-- The boolean under a key, if there is one. -/
def flag? (values : Dict Value) (key : String) : Option Bool :=
  (values.find? key).bind Value.bool?

/-- The policy that the extensions of a server ask for. -/
def AsyncApi.Server.policy (s : Server) : TlsPolicy :=
  .resolve (flag? s.extensions "x-skip-verify") (flag? s.extensions "x-use-systemcert")

/-- A section of binding information, if it is there. -/
def sectionOf? (part : Section) (raw : Option Value) : Option (Dict Value) :=
  ((raw.bind Value.members?).bind (·.find? part.key)).bind Value.members?

/-- The policy that a section of the binding information of an operation asks for. -/
def AsyncApi.Operation.policy (o : Operation) (part : Section) : TlsPolicy :=
  .resolve ((sectionOf? part o.protocolInfo).bind (flag? · "skipVerify"))
    ((sectionOf? part o.protocolInfo).bind (flag? · "useSystemCert"))

/-- The section that the flags of services are from, for the protocols that have flags. -/
def Protocol.flagSection : Protocol → Section
  | mqtt => .mqtt
  | _ => .http

/-- The TLS settings for a server: those of the protocol for its secure variant, and none for the
plain one. -/
def AsyncApi.Server.layout (s : Server) (p : Protocol) (layout : TlsLayout) : TlsLayout :=
  if s.protocol = p.profile.secure then layout else .absent

/-- Whether some security requirement of a server names a scheme for user and password. -/
def AsyncApi.Document.AsksForPassword (d : Document) (s : Server) : Prop :=
  ∃ requirement ∈ s.security, ∃ scheme ∈ requirement.keys,
    d.schemeType? scheme = some "userPassword"

instance (d : Document) (s : Server) : Decidable (d.AsksForPassword s) :=
  inferInstanceAs (Decidable (∃ requirement ∈ s.security, ∃ scheme ∈ requirement.keys,
    d.schemeType? scheme = some "userPassword"))

/-- The keys of credentials for a server: those of the protocol if the server asks for them. -/
def AsyncApi.Document.userKeys (d : Document) (s : Server) (p : Protocol) : List String :=
  if d.AsksForPassword s then p.userKeys else []

/-- The search for a scheme finds one if the server asks for it. -/
theorem usesUserPassword_iff (d : Document) (s : Server) :
    d.usesUserPassword s = true ↔ d.AsksForPassword s := by
  simp only [Document.usesUserPassword, List.any_eq_true, beq_iff_eq]
  rfl

/-! ## Where the flags are from -/

section Flags

/-- The flags among the extensions of a server whose extensions about the connection are read. -/
theorem flags_of_read {owner : String} {extensions : Dict Value} {x : ServerExtensions}
    (h : ServerExtensions.read owner extensions true = .ok x) :
    x.skipVerify = flag? extensions "x-skip-verify" ∧
      x.useSystemCert = flag? extensions "x-use-systemcert" := by
  obtain ⟨triggerVersion, -, h⟩ := Trace.except_bind_eq_ok.1 h
  obtain ⟨activityVersion, -, h⟩ := Trace.except_bind_eq_ok.1 h
  obtain ⟨store, -, h⟩ := Trace.except_bind_eq_ok.1 h
  obtain ⟨cleanSession, -, h⟩ := Trace.except_bind_eq_ok.1 h
  obtain ⟨keepAlive, -, h⟩ := Trace.except_bind_eq_ok.1 h
  obtain ⟨autoReconnect, -, h⟩ := Trace.except_bind_eq_ok.1 h
  obtain ⟨skipVerify, skip, h⟩ := Trace.except_bind_eq_ok.1 h
  obtain ⟨useSystemCert, use, h⟩ := Trace.except_bind_eq_ok.1 h
  obtain rfl := Except.ok.inj h
  exact ⟨eq_bind_of_readExtension rfl skip, eq_bind_of_readExtension rfl use⟩

/-- A key that is read as a boolean is the boolean under it. -/
theorem readKey_flag (part : Section) (members : Dict Value) (key : String) :
    (readKey part members key .boolean Value.bool?).1 = flag? members key := by
  unfold readKey flag?
  cases found : members.find? key with
  | none => rfl
  | some value =>
    obtain ⟨json, canonical⟩ := value
    cases json <;> rfl

/-- A section is read if it is there. -/
theorem readSection_fst {α : Type} (part : Section) (root : Dict Value)
    (read : Dict Value → α × List Defect) :
    (readSection part root read).1 =
      ((root.find? part.key).bind Value.members?).map fun members => (read members).1 := by
  unfold readSection
  cases found : root.find? part.key with
  | none => rfl
  | some value =>
    obtain ⟨json, canonical⟩ := value
    cases json <;> rfl

/-- The sections with flags, if they are there. -/
theorem sections_read (raw : Option Value) :
    (OperationBindings.read raw).1.mqtt =
        (sectionOf? .mqtt raw).map (fun members => (MqttInfo.read members).1) ∧
      (OperationBindings.read raw).1.http =
        (sectionOf? .http raw).map (fun members => (HttpInfo.read members).1) := by
  cases raw with
  | none => exact ⟨rfl, rfl⟩
  | some value =>
    obtain ⟨json, canonical⟩ := value
    cases json with
    | object members =>
      exact ⟨readSection_fst .mqtt _ MqttInfo.read, readSection_fst .http _ HttpInfo.read⟩
    | _ => exact ⟨rfl, rfl⟩

/-- The flags of the MQTT section are its booleans. -/
theorem mqttFlags_read (raw : Option Value) :
    ((OperationBindings.read raw).1.mqtt.getD {}).skipVerify =
        (sectionOf? .mqtt raw).bind (flag? · "skipVerify") ∧
      ((OperationBindings.read raw).1.mqtt.getD {}).useSystemCert =
        (sectionOf? .mqtt raw).bind (flag? · "useSystemCert") := by
  rw [(sections_read raw).1]
  cases sectionOf? .mqtt raw with
  | none => exact ⟨rfl, rfl⟩
  | some members =>
    exact ⟨readKey_flag .mqtt members "skipVerify", readKey_flag .mqtt members "useSystemCert"⟩

/-- The flags of the HTTP section are its booleans. -/
theorem httpFlags_read (raw : Option Value) :
    ((OperationBindings.read raw).1.http.getD {}).skipVerify =
        (sectionOf? .http raw).bind (flag? · "skipVerify") ∧
      ((OperationBindings.read raw).1.http.getD {}).useSystemCert =
        (sectionOf? .http raw).bind (flag? · "useSystemCert") := by
  rw [(sections_read raw).2]
  cases sectionOf? .http raw with
  | none => exact ⟨rfl, rfl⟩
  | some members =>
    exact ⟨readKey_flag .http members "skipVerify", readKey_flag .http members "useSystemCert"⟩

variable {d : Document} {o : Options} {p : Protocol} {x : PlacedServer}

/-- **The flags of a trigger** are from the extensions of its server. -/
theorem triggerPolicy_endpointOf (h : (pass o p d).result = .ok ())
    (mem : x ∈ protocolServers p d) (flags : p.triggerLayout.hasFlags = true) :
    x.1.2.policy = (endpointOf p d x).triggerPolicy := by
  have connection : p.profile.connectionExtensions = true := by
    cases p <;> first | rfl | cases flags
  have read := read_endpointOf h mem
  rw [connection] at read
  obtain ⟨skip, use⟩ := flags_of_read read
  rw [Server.policy, Endpoint.triggerPolicy, skip, use]

/-- **The flags of a service** are from the binding information of its operation. -/
theorem servicePolicy_channelEndpoint (flags : p.serviceLayout.hasFlags = true) (s : Server)
    (e : Endpoint) (name : String) (c : Channel) (operation : Operation) :
    operation.policy p.flagSection = (channelEndpoint s e name c operation).servicePolicy p := by
  cases p with
  | kafka | eftl | ws => cases flags
  | mqtt =>
    obtain ⟨skip, use⟩ := mqttFlags_read operation.protocolInfo
    exact (congrArg₂ TlsPolicy.resolve skip use).symm
  | http =>
    obtain ⟨skip, use⟩ := httpFlags_read operation.protocolInfo
    exact (congrArg₂ TlsPolicy.resolve skip use).symm

end Flags

/-! ## Servers -/

section Servers

variable {d : Document} {o : Options} {p : Protocol} {x : PlacedServer}

/-- The endpoint of a server is secure if the server names the secure variant, and asks for user and
password if the server does. -/
theorem demands_endpointOf (h : (pass o p d).result = .ok ()) (mem : x ∈ protocolServers p d) :
    (endpointOf p d x).secure = (x.1.2.protocol == p.profile.secure) ∧
      (endpointOf p d x).userPassword = d.usesUserPassword x.1.2 := by
  obtain ⟨extensions, -, connected⟩ := Trace.result_bind_eq_ok.1 (servers_of_pass h mem).1
  obtain ⟨-, -, connected⟩ := Trace.result_bind_eq_ok.1 connected
  obtain ⟨url, -, connected⟩ := Trace.result_bind_eq_ok.1 connected
  obtain ⟨port, -, connected⟩ := Trace.result_bind_eq_ok.1 connected
  rw [← Except.ok.inj connected]
  exact ⟨rfl, rfl⟩

/-- The TLS layout of a server is that of its protocol, if the server is secure. -/
theorem layout_eq (h : (pass o p d).result = .ok ()) (mem : x ∈ protocolServers p d)
    (layout : TlsLayout) :
    (if (endpointOf p d x).secure then layout else .absent) = x.1.2.layout p layout := by
  rw [(demands_endpointOf h mem).1, Server.layout]
  exact if_congr beq_iff_eq rfl rfl

/-- The keys of credentials are those of the protocol, if the server asks for them. -/
theorem userKeys_eq (h : (pass o p d).result = .ok ()) (mem : x ∈ protocolServers p d) :
    (if (endpointOf p d x).userPassword then p.userKeys else []) = d.userKeys x.1.2 p := by
  rw [(demands_endpointOf h mem).2, Document.userKeys]
  exact if_congr (usesUserPassword_iff d x.1.2) rfl rfl

/-- A layout for a server has flags only if that of the protocol does. -/
theorem hasFlags_of_layout {s : Server} {layout : TlsLayout}
    (flags : (s.layout p layout).hasFlags = true) : layout.hasFlags = true := by
  unfold Server.layout at flags
  split at flags
  · exact flags
  · cases flags

/-- **The trigger of a server**, as regards security. -/
theorem secured_placedTrigger (h : (pass o p d).result = .ok ()) (mem : x ∈ protocolServers p d) :
    SecuritySettings (placedTrigger d o.role p x).settings (x.1.2.layout p p.triggerLayout)
      x.1.2.policy (d.userKeys x.1.2 p) := by
  have settings := securitySettings_trigger p (endpointOf p d x)
  rw [layout_eq h mem, userKeys_eq h mem] at settings
  exact settings.of_policy fun flags => triggerPolicy_endpointOf h mem (hasFlags_of_layout flags)

/-- **A service of a server**, as regards security. -/
theorem secured_operationService (h : (pass o p d).result = .ok ())
    (mem : x ∈ protocolServers p d) (activity : ModulePath)
    (operation : String × Channel × Operation) :
    SecuritySettings (operationService p activity operation.1 (channelEndpoint x.1.2
        (endpointOf p d x) operation.1 operation.2.1 operation.2.2)).settings
      (x.1.2.layout p p.serviceLayout) (operation.2.2.policy p.flagSection)
      (d.userKeys x.1.2 p) := by
  have settings := securitySettings_service p (channelEndpoint x.1.2 (endpointOf p d x)
    operation.1 operation.2.1 operation.2.2)
  have secure : (channelEndpoint x.1.2 (endpointOf p d x) operation.1 operation.2.1
      operation.2.2).secure = (endpointOf p d x).secure := rfl
  have userPassword : (channelEndpoint x.1.2 (endpointOf p d x) operation.1 operation.2.1
      operation.2.2).userPassword = (endpointOf p d x).userPassword := rfl
  rw [secure, userPassword, layout_eq h mem, userKeys_eq h mem] at settings
  exact settings.of_policy fun flags =>
    servicePolicy_channelEndpoint (hasFlags_of_layout flags) _ _ _ _ _

end Servers

/-! ## Compilations -/

/-- The pairs of a server and an operation for which a protocol sends messages. -/
def senders (d : Document) (role : Role) (p : Protocol) :
    List (PlacedServer × String × Channel × Operation) :=
  (protocolServers p d).flatMap fun x => (d.operations role.outbound).map fun operation =>
    (x, operation)

/-- **The security of a compilation**, protocol by protocol: the trigger of a server has the
settings that the server asks for, and so do the services of the resource that sends messages, each
for its server and its operation. -/
structure Compilation.Secured (c : Compilation) (d : Document) (role : Role) (p : Protocol) :
    Prop where
  triggers : ∀ x ∈ protocolServers p d, ∀ t ∈ c.app.triggers, t.id = serverLabel p x.2 →
    SecuritySettings t.settings (x.1.2.layout p p.triggerLayout) x.1.2.policy
      (d.userKeys x.1.2 p)
  services : ∀ r ∈ c.app.resources, r.id = publishId p →
    ∃ services, r.data.services = services ++ [Gateway.logService] ∧
      List.Forall₂ (fun sender service => service.name = serviceName p sender.2.1 ∧
        SecuritySettings service.settings (sender.1.1.2.layout p p.serviceLayout)
          (sender.2.2.2.policy p.flagSection) (d.userKeys sender.1.1.2 p))
        (senders d role p) services

section Compilations

variable {d : Document} {o : Options} {c : Compilation} {p : Protocol}

/-- The services of a pass belong to its senders, one to one. -/
theorem forall₂_services (h : (pass o p d).result = .ok ()) (able : sends d o.role p = true) :
    List.Forall₂ (fun sender service => service.name = serviceName p sender.2.1 ∧
        SecuritySettings service.settings (sender.1.1.2.layout p p.serviceLayout)
          (sender.2.2.2.policy p.flagSection) (d.userKeys sender.1.1.2 p))
      (senders d o.role p) ((protocolServers p d).flatMap (placedServices d o.role p)) := by
  obtain ⟨some, -⟩ := Bool.and_eq_true_iff.1 able
  obtain ⟨activity, hactivity⟩ := Option.isSome_iff_exists.1 (Bool.and_eq_true_iff.1 some).2
  have each : List.Forall₂ (fun x y : PlacedServer => y = x ∧ x ∈ protocolServers p d)
      (protocolServers p d) (protocolServers p d) :=
    List.forall₂_same.2 fun x mem => ⟨rfl, mem⟩
  refine List.rel_flatMap each ?_
  rintro x _ ⟨rfl, mem⟩
  rw [placedServices, serverServices, hactivity, Option.toList_some, List.flatMap_singleton,
    List.forall₂_map_left_iff, List.forall₂_map_right_iff]
  exact List.forall₂_same.2 fun operation _ =>
    ⟨rfl, secured_operationService h mem activity operation⟩

/-- The trigger of a server is known by its identifier. -/
theorem eq_placedTrigger_of_id (h : compile d o = .ok c) {x : PlacedServer}
    (mem : x ∈ protocolServers p d) {t : Trigger} (listed : t ∈ c.app.triggers)
    (id : t.id = serverLabel p x.2) : t = placedTrigger d o.role p x := by
  obtain ⟨all, -⟩ := compile_eq_ok_iff.1 h
  rw [(collects_of_compile h).triggers] at listed
  obtain ⟨q, -, listed⟩ := List.mem_flatMap.1 listed
  rw [triggers_of_pass (all q)] at listed
  rcases List.mem_append.1 listed with listed | listed
  · split at listed
    · obtain ⟨y, memServer, rfl⟩ := List.mem_map.1 listed
      obtain ⟨rfl, position⟩ := serverLabel_inj id
      rw [List.inj_on_of_nodup_map (nodup_positions q d) memServer mem position]
    · cases listed
  · split at listed
    · obtain rfl := List.mem_singleton.1 listed
      exact absurd id.symm (serverLabel_ne_publishName p q x.2)
    · cases listed

/-- The resource that sends the messages of a protocol is known by its identifier. -/
theorem eq_outbound_of_id (h : compile d o = .ok c) {r : Resource}
    (listed : r ∈ c.app.resources) (id : r.id = publishId p) :
    sends d o.role p = true ∧ r = Gateway.outbound p.name
      ((protocolServers p d).flatMap (placedServices d o.role p)) := by
  obtain ⟨all, -⟩ := compile_eq_ok_iff.1 h
  rw [(collects_of_compile h).resources] at listed
  obtain ⟨q, -, listed⟩ := List.mem_flatMap.1 listed
  rw [resources_of_pass (all q)] at listed
  rcases List.mem_append.1 listed with listed | listed
  · split at listed
    · obtain rfl := List.mem_singleton.1 listed
      exact absurd id (resourceId_ne_publishId q p)
    · cases listed
  · split at listed
    next able =>
      obtain rfl := List.mem_singleton.1 listed
      obtain rfl := publishId_injective id
      exact ⟨able, rfl⟩
    next => cases listed

/-- **The law of security settings.** -/
theorem secured_of_compile (h : compile d o = .ok c) (p : Protocol) : c.Secured d o.role p := by
  have passed := (compile_eq_ok_iff.1 h).1 p
  constructor
  case triggers =>
    intro x mem t listed id
    rw [eq_placedTrigger_of_id h mem listed id]
    exact secured_placedTrigger passed mem
  case services =>
    intro r listed id
    obtain ⟨able, rfl⟩ := eq_outbound_of_id h listed id
    exact ⟨_, rfl, forall₂_services passed able⟩

end Compilations

/-! ## A server with user and password -/

/-- A server that asks for user and password, and for certificates to be verified without those of
the system. -/
def lockedServer : Server :=
  { plainServer "vault" "vault:8883" "secure-mqtt" (Dict.ofList
      [("x-skip-verify", .bool false), ("x-use-systemcert", .bool false)]) with
    security := [Dict.ofList [("account", [])]] }

/-- A document with this server alone. -/
def lockedDocument : Document where
  asyncapi := "2.0.0"
  id := none
  info := { title := "locked", version := "1.0.0" }
  servers := .list [lockedServer]
  channels := Dict.ofList [("/door", plainChannel)]
  components := some ⟨Dict.ofList
    [("account", .object (Dict.ofList [("type", .text "userPassword")]))]⟩

/-- A secure server with user and password, which verifies certificates against a trust store. -/
theorem lockedDocument_secured :
    ∃ c, compile lockedDocument {} = .ok c ∧ c.Secured lockedDocument .server .mqtt ∧
      ∃ t ∈ c.app.triggers, t.id = "mqtt0" ∧
        t.settings.contains "username" = true ∧ t.settings.contains "user" = false ∧
        .bool false ∈ valuesUnder t.settings "skipVerify" ∧
        ∃ block ∈ sslConfig? t.settings, block.contains "caFile" = true := by
  have outcome : (compile lockedDocument {}).toOption.map
      (fun c => c.app.triggers.map Trigger.id) = some ["mqtt0", "mqttPublish"] := by
    decide +kernel
  obtain ⟨c, hc, ids⟩ := Trace.exists_ok_of_toOption outcome
  have secured : c.Secured lockedDocument .server .mqtt := secured_of_compile hc .mqtt
  have named : "mqtt0" ∈ c.app.triggers.map Trigger.id := by
    rw [ids]
    exact List.mem_cons_self
  obtain ⟨t, listed, id⟩ := List.mem_map.1 named
  have server : (("vault", lockedServer), 0) ∈ protocolServers .mqtt lockedDocument :=
    List.mem_cons_self
  have settings := secured.triggers _ server t listed id
  have asked : .bool false ∈ valuesUnder t.settings "useSystemCert" :=
    (settings.useSystemCert _).2 ⟨rfl, false, rfl, rfl⟩
  refine ⟨c, hc, secured, t, listed, id, ?_, ?_, ?_, settings.caFile.2 asked⟩
  · exact (settings.credentials _ (by decide)).2 (by decide +kernel)
  · have absent := mt (settings.credentials "user" (by decide)).1 (by decide +kernel)
    exact Bool.not_eq_true _ ▸ absent
  · exact (settings.skipVerify _).2 ⟨rfl, rfl⟩

end EventGateway
