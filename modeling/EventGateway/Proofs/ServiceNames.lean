import EventGateway.Proofs.ClosedDescriptor
import EventGateway.Proofs.Outline
import Mathlib.Algebra.BigOperators.Group.List.Basic

/-!
# Services are addressed by name

The steps of a microgateway refer to its services by name.  A microgateway that receives has two
fixed services.  One that sends has a service for each server of its protocol and each channel, and
this service is named after the protocol and the channel: with several servers, as many services
bear the name.  The service for logging, to which the steps of both kinds refer, is always alone.

## Main statements

* `count_sendingNames` — how often a name is declared by a microgateway that sends.
* `nodup_sendingNames_iff` — these names are distinct if and only if the protocol has one server.
* `addressed_of_compile` — what the names of the services of a compilation denote.
-/

namespace EventGateway

open AsyncApi
open Flogo (Resource Service)

/-- The names of the services of a resource, as they are declared. -/
def Flogo.Resource.serviceNames (r : Resource) : List String :=
  r.data.services.map Service.name

/-- The name of the services that send the messages of a channel. -/
def serviceName (p : Protocol) (channel : String) : String :=
  p.name ++ "-name-" ++ channel

/-- The identifier of the resource that sends the messages of a protocol. -/
def publishId (p : Protocol) : String :=
  Gateway.resourceId (Gateway.publishName p.name)

/-! ## Names are apart -/

/-- The name of a service tells its channel. -/
theorem serviceName_injective (p : Protocol) : Function.Injective (serviceName p) := by
  intro channel channel' same
  exact (String.append_right_inj _).1 same

/-- No service of a protocol is named like the one for logging. -/
theorem serviceName_ne_log (p : Protocol) (channel : String) : serviceName p channel ≠ "log" := by
  intro same
  have letter := congrArg (fun text => text.toList.head?) same
  cases p <;> simp [serviceName, Protocol.name, Protocol.profile, String.toList_append] at letter

/-- The identifier of a resource that sends tells its protocol. -/
theorem publishId_injective : Function.Injective publishId := by
  intro p q same
  exact (Protocol.name_append_inj ((String.append_right_inj _).1 same)).1

/-- A resource that receives never has the identifier of one that sends. -/
theorem resourceId_ne_publishId (p q : Protocol) : Gateway.resourceId p.name ≠ publishId q := by
  intro same
  have name : p.name ++ "" = q.name ++ "Publish" := by
    rw [String.append_empty]
    exact (String.append_right_inj _).1 same
  exact absurd (Protocol.name_append_inj name).2 (by decide)

/-! ## How often a name is declared -/

/-- The names of the services of a resource that sends: for each server those of all channels, and
the service for logging. -/
def sendingNames (d : Document) (role : Role) (p : Protocol) : List String :=
  ((d.speakers p).flatMap fun _ => (d.channelsWith role.outbound).map (serviceName p)) ++ ["log"]

section Names

variable {d : Document} {o : Options} {role : Role} {p : Protocol}

/-- Different channels have services of different names. -/
theorem nodup_serviceNames (d : Document) (role : Role) (p : Protocol) :
    ((d.channelsWith role.outbound).map (serviceName p)).Nodup := by
  have apart : (d.channelsWith role.outbound).Nodup := by
    refine (ascending_channelsWith d role.outbound).imp ?_
    rintro channel _ lt rfl
    exact String.lt_irrefl channel lt
  exact apart.map (serviceName_injective p)

/-- **How often a name is declared**: that of a channel once for each server, that for logging
once. -/
theorem count_sendingNames (d : Document) (role : Role) (p : Protocol) (name : String) :
    (sendingNames d role p).count name =
      (d.speakers p).length * ((d.channelsWith role.outbound).map (serviceName p)).count name +
        if name = "log" then 1 else 0 := by
  have last : ["log"].count name = if name = "log" then 1 else 0 := by
    by_cases log : name = "log"
    · rw [log, if_pos rfl, List.count_singleton_self]
    · rw [if_neg log, List.count_eq_zero]
      exact fun mem => log (List.mem_singleton.1 mem)
  rw [sendingNames, List.count_append, last, List.count_flatMap]
  simp [Function.comp_def]

/-- There is one service that writes to the log. -/
theorem count_log_sendingNames (d : Document) (role : Role) (p : Protocol) :
    (sendingNames d role p).count "log" = 1 := by
  have none : ((d.channelsWith role.outbound).map (serviceName p)).count "log" = 0 := by
    refine List.count_eq_zero.2 fun mem => ?_
    obtain ⟨channel, -, eq⟩ := List.mem_map.1 mem
    exact serviceName_ne_log p channel eq
  rw [count_sendingNames, none, Nat.mul_zero, if_pos rfl]

/-- A channel has as many services as there are servers of the protocol. -/
theorem count_serviceName {channel : String} (mem : channel ∈ d.channelsWith role.outbound) :
    (sendingNames d role p).count (serviceName p channel) = (d.speakers p).length := by
  have once : ((d.channelsWith role.outbound).map (serviceName p)).count (serviceName p channel) =
      1 :=
    List.count_eq_one_of_mem (nodup_serviceNames d role p) (List.mem_map_of_mem mem)
  rw [count_sendingNames, once, if_neg (serviceName_ne_log p channel), Nat.mul_one, Nat.add_zero]

/-- **The names are distinct if the protocol has one server**, and only then. -/
theorem nodup_sendingNames_iff (some : d.channelsWith role.outbound ≠ []) :
    (sendingNames d role p).Nodup ↔ (d.speakers p).length ≤ 1 := by
  rw [List.nodup_iff_count_le_one]
  constructor
  · intro atMostOnce
    obtain ⟨channel, mem⟩ := List.exists_mem_of_ne_nil _ some
    rw [← count_serviceName mem]
    exact atMostOnce _
  · intro single name
    by_cases log : name = "log"
    · rw [log, count_log_sendingNames]
    · have once := List.nodup_iff_count_le_one.1 (nodup_serviceNames d role p) name
      rw [count_sendingNames, if_neg log, Nat.add_zero]
      exact Nat.mul_le_mul single once

/-! ## Compilations -/

/-- **What the names of the services of a resource denote.**  A step refers to one service.  Names
are distinct, unless the resource sends the messages of a protocol with several servers; there, the
name of a channel is declared once for each server. -/
structure Flogo.Resource.Addressed (r : Resource) (d : Document) (role : Role) : Prop where
  steps : ∀ step ∈ r.data.steps, r.serviceNames.count step.service = 1
  nodup_iff : r.serviceNames.Nodup ↔ ∀ p, r.id = publishId p → (d.speakers p).length ≤ 1
  channels : ∀ p, r.id = publishId p → ∀ channel ∈ d.channelsWith role.outbound,
    r.serviceNames.count (serviceName p channel) = (d.speakers p).length

/-- **The resource that receives messages** names its services as the document says. -/
theorem addressed_inbound (d : Document) (role : Role) (p : Protocol) :
    (Gateway.inbound p.name).Addressed d role where
  steps := by
    intro step mem
    rcases List.mem_pair.1 mem with rfl | rfl <;> rfl
  nodup_iff := by
    have distinct : ["log", "methodinvoker"].Nodup := by decide
    refine iff_of_true distinct fun q same => ?_
    exact absurd same (resourceId_ne_publishId p q)
  channels := fun q same => absurd same (resourceId_ne_publishId p q)

/-- The names of the services of the resource that sends messages. -/
theorem serviceNames_outbound (able : sends d role p = true) :
    (Gateway.outbound p.name ((protocolServers p d).flatMap
      (placedServices d role p))).serviceNames = sendingNames d role p := by
  rw [sends_eq, Bool.and_eq_true, Bool.and_eq_true] at able
  rw [Resource.serviceNames, Gateway.outbound, List.map_append, List.map_flatMap, sendingNames,
    speakers_eq, List.flatMap_map]
  congr 1
  exact List.flatMap_congr fun x _ => names_placedServices able.1.1 x

/-- **The resource that sends messages** names its services as the document says. -/
theorem addressed_outbound (able : sends d role p = true) :
    (Gateway.outbound p.name ((protocolServers p d).flatMap
      (placedServices d role p))).Addressed d role where
  steps := by
    intro step mem
    obtain rfl := List.mem_singleton.1 mem
    rw [serviceNames_outbound able]
    exact count_log_sendingNames d role p
  nodup_iff := by
    have some : d.channelsWith role.outbound ≠ [] := by
      rw [sends_eq, Bool.and_eq_true, Bool.not_eq_true'] at able
      exact List.isEmpty_eq_false_iff.1 able.2
    rw [serviceNames_outbound able, nodup_sendingNames_iff some]
    constructor
    · intro single q same
      exact publishId_injective same ▸ single
    · intro each
      exact each p rfl
  channels := by
    intro q same channel mem
    obtain rfl := publishId_injective same
    rw [serviceNames_outbound able]
    exact count_serviceName mem

/-- **Services are addressed by name** in every resource of a compilation. -/
theorem addressed_of_compile {c : Compilation} (h : compile d o = .ok c) :
    ∀ r ∈ c.app.resources, r.Addressed d o.role := by
  obtain ⟨all, -⟩ := compile_eq_ok_iff.1 h
  intro r mem
  rw [(collects_of_compile h).resources] at mem
  obtain ⟨p, -, mem⟩ := List.mem_flatMap.1 mem
  rw [resources_of_pass (all p), List.mem_append] at mem
  rcases mem with mem | mem
  · split at mem
    · obtain rfl := List.mem_singleton.1 mem
      exact addressed_inbound d o.role p
    · cases mem
  · split at mem
    next able =>
      obtain rfl := List.mem_singleton.1 mem
      exact addressed_outbound able
    next => cases mem

end Names

/-! ## A name that several services bear -/

/-- A document with two servers of a protocol and a channel whose messages are sent. -/
def doubledDocument : Document where
  asyncapi := "2.0.0"
  id := none
  info := { title := "doubled", version := "1.0.0" }
  servers := .list [plainServer "first" "first:9092" "kafka",
    plainServer "second" "second:9092" "kafka"]
  channels := Dict.ofList [("/door", plainChannel)]
  components := none

theorem compile_doubledDocument :
    ∃ c, compile doubledDocument {} = .ok c ∧
      c.app.resources.map Resource.serviceNames =
        [["log", "methodinvoker"], ["kafka-name-/door", "kafka-name-/door", "log"]] :=
  Trace.exists_ok_of_toOption (by decide +kernel)

/-- Two servers of one protocol make two services of one name. -/
theorem doubledDocument_addressed :
    ∃ c, compile doubledDocument {} = .ok c ∧ c.app.resources ≠ [] ∧
      ∀ r ∈ c.app.resources, r.Addressed doubledDocument .server := by
  obtain ⟨c, hc, names⟩ := compile_doubledDocument
  refine ⟨c, hc, fun none => ?_, addressed_of_compile hc⟩
  rw [none] at names
  cases names

/-- **Names of services may repeat**: those of two servers for one channel are the same. -/
theorem not_every_service_has_its_own_name :
    ¬ ∀ (d : Document) (o : Options) (c : Compilation), compile d o = .ok c →
      ∀ r ∈ c.app.resources, r.serviceNames.Nodup := by
  intro distinct
  obtain ⟨c, hc, names⟩ := compile_doubledDocument
  have sending : ["kafka-name-/door", "kafka-name-/door", "log"] ∈
      c.app.resources.map Resource.serviceNames := by
    rw [names]
    exact List.mem_cons_of_mem _ List.mem_cons_self
  obtain ⟨r, mem, eq⟩ := List.mem_map.1 sending
  have nodup := distinct doubledDocument {} c hc r mem
  rw [eq] at nodup
  exact absurd nodup (by decide)

end EventGateway
