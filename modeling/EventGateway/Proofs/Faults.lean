import EventGateway.Proofs.Composition
import EventGateway.Proofs.Connection
import EventGateway.Proofs.Integers

/-!
# Why a document cannot be compiled

Three things can be wrong with a document: an extension of a server that is read has another type,
the port of a server is neither a template nor an integer, or an extension of a parameter has
another type.  `AsyncApi.Document.faults` lists all that is wrong, in the order of protocols and
servers, as a list that is written down without compiling anything.  A compilation stops at the
first fault it meets, and this is the first fault of the list; so it succeeds if the list is empty,
and nothing that is not looked at here has an influence on success.

## Main statements

* `fault?_compile_eq_head?` — a compilation ends with the first fault of the document.
* `fault_of_compile` — when and how a compilation fails.
-/

namespace EventGateway

open AsyncApi
open Text (Template)

/-! ## What can be wrong -/

/-- Whether a value is of a type. -/
def Kind.admits : Kind → Value → Bool
  | string, v => v.text?.isSome
  | boolean, v => v.bool?.isSome
  | number, v => v.number?.isSome
  | stringMap, v => (stringMap? v).isSome

/-- An extension is there, is not null, and is not of the type it should be of. -/
def Mistyped (extensions : Dict Value) (key : String) (expected : Kind) : Prop :=
  ∃ v, extensions.find? key = some v ∧ v.isNull = false ∧ expected.admits v = false

/-- The extensions that are read of every server, with their types. -/
def versionExtensions : List (String × Kind) :=
  [("x-trigger-version", .string), ("x-activity-version", .string)]

/-- The extensions about the connection, with their types. -/
def connectionExtensions : List (String × Kind) :=
  [("x-store", .string), ("x-clean-session", .boolean), ("x-keep-alive", .number),
    ("x-auto-reconnect", .boolean), ("x-skip-verify", .boolean), ("x-use-systemcert", .boolean)]

/-- The extensions that are read of the servers of a protocol, in the order of reading. -/
def Protocol.serverExtensions (p : Protocol) : List (String × Kind) :=
  versionExtensions ++ if p = .mqtt then connectionExtensions else []

/-- The fault of an extension, if it is mistyped. -/
def extensionFault? (owner : String) (extensions : Dict Value) : String × Kind → Option Fault
  | (key, expected) => (extensions.find? key).bind fun v =>
    if v.isNull || expected.admits v then none else some (.extension key owner expected v)

/-- The faults of some extensions, in their order. -/
def extensionFaults (owner : String) (extensions : Dict Value) (expected : List (String × Kind)) :
    List Fault :=
  expected.filterMap (extensionFault? owner extensions)

/-- The port of a server is given, has no variable, and is no integer of 64 bits. -/
def BadPort (s : Server) : Prop :=
  (Template.ofPort s.url).isEmpty = false ∧ (Template.ofPort s.url).hasVariable = false ∧
    ¬ IsInteger64 (Text.trim (Template.ofPort s.url).literalText.toList)

/-- The fault of the port of a server, if there is one. -/
def portFaults (s : Server) : List Fault :=
  let t := Template.ofPort s.url
  if t.isEmpty || t.hasVariable || (integerOfDecimal? (Text.trim t.literalText.toList)).isSome then
    []
  else [.port t.literalText s.url]

/-- The faults of the parameters of a channel. -/
def channelFaults (channel : String) (parameters : Layout Parameter) : List Fault :=
  parameters.parameters.flatMap fun (name, q) =>
    extensionFaults ("parameter " ++ name ++ " of channel " ++ channel) q.extensions
      [("x-multilevel", .boolean)]

/-- The faults of the parameters of all channels, whether the channels have operations or not. -/
def parameterFaults (d : Document) : List Fault :=
  d.channels.entries.flatMap fun (channel, c) => channelFaults channel c.parameters

/-- The faults that are met when a server is compiled. -/
def serverFaults (p : Protocol) (d : Document) (name : String) (s : Server) : List Fault :=
  extensionFaults ("server " ++ name) s.extensions p.serverExtensions ++ portFaults s ++
    parameterFaults d

/-- All faults of a document: by protocol, and by server for each protocol. -/
def AsyncApi.Document.faults (d : Document) : List Fault :=
  Protocol.all.flatMap fun p =>
    (d.servers.servers.filter fun x => p.isNamedBy x.2.protocol).flatMap fun (name, s) =>
      serverFaults p d name s

/-! ### Faults and what is wrong -/

section Wrong

variable {owner : String} {extensions : Dict Value}

/-- An extension is at fault if it is there and has another kind than expected. -/
theorem extensionFault?_eq_some_iff {key : String} {expected : Kind} {fault : Fault} :
    extensionFault? owner extensions (key, expected) = some fault ↔
      ∃ v, (extensions.find? key = some v ∧ v.isNull = false ∧ expected.admits v = false) ∧
        fault = .extension key owner expected v := by
  show ((extensions.find? key).bind _) = some fault ↔ _
  rw [Option.bind_eq_some_iff]
  refine exists_congr fun v => ?_
  cases v.isNull <;> cases expected.admits v <;> simp [eq_comm]

/-- There are faults of extensions if one of them is mistyped. -/
theorem exists_mem_extensionFaults_iff {expected : List (String × Kind)} :
    (∃ fault, fault ∈ extensionFaults owner extensions expected) ↔
      ∃ x ∈ expected, Mistyped extensions x.1 x.2 := by
  simp only [extensionFaults, List.mem_filterMap]
  constructor
  · rintro ⟨fault, x, mem, h⟩
    obtain ⟨v, wrong, -⟩ := extensionFault?_eq_some_iff.1 h
    exact ⟨x, mem, v, wrong⟩
  · rintro ⟨x, mem, v, wrong⟩
    exact ⟨_, x, mem, extensionFault?_eq_some_iff.2 ⟨v, wrong, rfl⟩⟩

/-- A port is at fault if it is bad. -/
theorem exists_mem_portFaults_iff {s : Server} : (∃ fault, fault ∈ portFaults s) ↔ BadPort s := by
  unfold portFaults BadPort
  rw [isInteger64_iff]
  dsimp only
  cases (Template.ofPort s.url).isEmpty with
  | true => simp
  | false =>
    cases (Template.ofPort s.url).hasVariable with
    | true => simp
    | false =>
      cases integerOfDecimal? (Text.trim (Template.ofPort s.url).literalText.toList) <;> simp

/-- Some parameter is at fault if its one extension has another kind. -/
theorem exists_mem_parameterFaults_iff {d : Document} :
    (∃ fault, fault ∈ parameterFaults d) ↔
      ∃ x ∈ d.channels.entries, ∃ y ∈ x.2.parameters.parameters,
        Mistyped y.2.extensions "x-multilevel" .boolean := by
  simp only [parameterFaults, channelFaults, List.mem_flatMap]
  constructor
  · rintro ⟨fault, x, hx, y, hy, h⟩
    obtain ⟨z, hz, wrong⟩ := exists_mem_extensionFaults_iff.1 ⟨fault, h⟩
    obtain rfl := List.mem_singleton.1 hz
    exact ⟨x, hx, y, hy, wrong⟩
  · rintro ⟨x, hx, y, hy, wrong⟩
    have single : ∃ z ∈ [("x-multilevel", Kind.boolean)], Mistyped y.2.extensions z.1 z.2 :=
      ⟨_, List.mem_singleton_self _, wrong⟩
    obtain ⟨fault, h⟩ := exists_mem_extensionFaults_iff.2 single
    exact ⟨fault, x, hx, y, hy, h⟩

end Wrong

/-! ## The first fault -/

/-- A sequence of results ends with the fault of the first one, or else with that of the rest. -/
theorem fault?_bind {α β : Type} {r : Except Fault α} {f : α → Except Fault β}
    {next : Option Fault} (h : ∀ a, r = .ok a → fault? (f a) = next) :
    fault? (r >>= f) = (fault? r).or next := by
  cases r with
  | error fault => rfl
  | ok a => exact h a rfl

/-- What cannot fail does not change a fault. -/
theorem fault?_bind_of_none {α β : Type} {r : Except Fault α} {f : α → Except Fault β}
    (h : ∀ a, fault? (f a) = none) : fault? (r >>= f) = fault? r :=
  (fault?_bind fun a _ => h a).trans Option.or_none

/-- A walk fails as its first step that fails. -/
theorem fault?_mapM_except {α β : Type} (l : List α) (f : α → Except Fault β) :
    fault? (l.mapM f) = l.findSome? fun a => fault? (f a) := by
  induction l with
  | nil => rfl
  | cons a l ih =>
    rw [List.mapM_cons, List.findSome?_cons]
    cases h : f a with
    | error fault => rfl
    | ok b =>
      show fault? (l.mapM f >>= fun bs => pure (b :: bs)) = _
      exact (fault?_bind_of_none fun bs => rfl).trans ih

section Extensions

variable {owner : String} {extensions : Dict Value} {key : String} {expected : Kind} {α β : Type}
  {read : Value → Option α}

/-- Reading an extension ends with its fault. -/
theorem fault?_readExtension (typed : ∀ v, (read v).isSome = expected.admits v) :
    fault? (readExtension owner extensions key expected read) =
      extensionFault? owner extensions (key, expected) := by
  unfold readExtension extensionFault?
  dsimp only
  cases extensions.find? key with
  | none => rfl
  | some v =>
    rw [Option.bind_some, ← typed v]
    dsimp only
    cases v.isNull with
    | true => rfl
    | false => cases read v <;> rfl

/-- Reading one extension and then others ends with the first of their faults. -/
theorem fault?_readExtension_bind (typed : ∀ v, (read v).isSome = expected.admits v)
    {f : Option α → Except Fault β} {rest : List (String × Kind)}
    (h : ∀ a, fault? (f a) = (extensionFaults owner extensions rest).head?) :
    fault? (readExtension owner extensions key expected read >>= f) =
      (extensionFaults owner extensions ((key, expected) :: rest)).head? := by
  rw [fault?_bind fun a _ => h a, fault?_readExtension typed, extensionFaults, extensionFaults,
    List.filterMap_cons]
  cases extensionFault? owner extensions (key, expected) <;> rfl

/-- Every protocol reads the versions, and MQTT reads the options of a connection. -/
theorem connectionExtensions_eq (p : Protocol) :
    p.serverExtensions =
      versionExtensions ++ if p.profile.connectionExtensions then connectionExtensions else [] := by
  cases p <;> rfl

/-- **Reading the extensions of a server** ends with the first of their faults. -/
theorem fault?_readServerExtensions (p : Protocol) :
    fault? (ServerExtensions.read owner extensions p.profile.connectionExtensions) =
      (extensionFaults owner extensions p.serverExtensions).head? := by
  have text : ∀ v : Value, v.text?.isSome = Kind.string.admits v := fun _ => rfl
  have bool : ∀ v : Value, v.bool?.isSome = Kind.boolean.admits v := fun _ => rfl
  have number : ∀ v : Value, v.number?.isSome = Kind.number.admits v := fun _ => rfl
  rw [connectionExtensions_eq]
  unfold ServerExtensions.read
  refine fault?_readExtension_bind text fun _ => ?_
  refine fault?_readExtension_bind text fun _ => ?_
  cases p.profile.connectionExtensions with
  | false => rfl
  | true =>
    refine fault?_readExtension_bind text fun _ => ?_
    refine fault?_readExtension_bind bool fun _ => ?_
    refine fault?_readExtension_bind number fun _ => ?_
    refine fault?_readExtension_bind bool fun _ => ?_
    refine fault?_readExtension_bind bool fun _ => ?_
    refine fault?_readExtension_bind bool fun _ => ?_
    rfl

/-- **Reading the parameters of a channel** ends with the first of their faults. -/
theorem fault?_readAll (channel : String) (parameters : Layout Parameter) :
    fault? (ChannelParameter.readAll channel parameters) =
      (channelFaults channel parameters).head? := by
  unfold ChannelParameter.readAll channelFaults
  rw [fault?_mapM_except, List.head?_flatMap]
  congr 1
  funext x
  refine fault?_readExtension_bind (fun _ => rfl) fun _ => ?_
  rfl

end Extensions

section Servers

variable {p : Protocol} {d : Document}

/-- Making the expression of a port fails if the port is at fault. -/
theorem fault?_connectPort (label : String) (s : Server) :
    fault? (connectPort label s).result = (portFaults s).head? := by
  unfold connectPort portFaults
  dsimp only
  cases (Template.ofPort s.url).isEmpty with
  | true => rfl
  | false =>
    cases (Template.ofPort s.url).hasVariable with
    | true => rfl
    | false =>
      cases integerOfDecimal? (Text.trim (Template.ofPort s.url).literalText.toList) <;> rfl

/-- **Connecting a server** ends with the first fault of its extensions and its port. -/
theorem fault?_connect (index : Nat) (name : String) (s : Server) :
    fault? (connect p d index name s).result =
      (extensionFaults ("server " ++ name) s.extensions p.serverExtensions ++
        portFaults s).head? := by
  rw [List.head?_append, ← fault?_readServerExtensions, ← fault?_connectPort (serverLabel p index)]
  rw [connect_eq, Trace.result_bind, Trace.result_ofExcept]
  apply fault?_bind
  intro extensions _
  rw [Trace.bind_of_ok (Trace.result_emitAll _), connectUrl_eq, Trace.bind_of_ok rfl]
  show fault? (connectPort _ s >>= _).result = _
  rw [Trace.result_bind]
  exact fault?_bind_of_none fun port => rfl

/-- **Compiling a server** ends with the first of the faults that are met. -/
theorem fault?_compileServer (o : Options) (index : Nat) (name : String) (s : Server) :
    fault? (compileServer o p d index name s).result =
      (serverFaults p d name s).head? := by
  unfold compileServer serverFaults
  rw [List.head?_append, ← fault?_connect index, Trace.result_bind]
  apply fault?_bind
  intro e _
  have channels : fault? (d.channels.entries.mapM fun x =>
      compileChannel o.role p s.baseChannel e x.1 x.2).result =
      (parameterFaults d).head? := by
    rw [fault?_mapM, parameterFaults, List.head?_flatMap]
    congr 1
    funext x
    rw [result_compileChannel, fault?_map, fault?_readAll]
  rw [Trace.result_bind]
  exact (fault?_bind_of_none fun parts => rfl).trans channels

/-- The servers of a protocol, without their positions. -/
theorem map_fst_protocolServers :
    (protocolServers p d).map Prod.fst =
      d.servers.servers.filter fun x => p.isNamedBy x.2.protocol := by
  rw [protocolServers_eq]
  have positions := List.zipIdx_map_fst 0 d.servers.servers
  conv_rhs => rw [← positions, List.filter_map]
  rfl

/-- **A pass** ends with the first fault of its servers. -/
theorem fault?_pass (o : Options) :
    fault? (pass o p d).result =
      ((d.servers.servers.filter fun x => p.isNamedBy x.2.protocol).flatMap fun x =>
        serverFaults p d x.1 x.2).head? := by
  unfold pass
  rw [Trace.result_bind]
  refine (fault?_bind_of_none fun parts => rfl).trans ?_
  rw [fault?_mapM, List.head?_flatMap, ← map_fst_protocolServers, List.findSome?_map]
  congr 1
  funext x
  exact fault?_compileServer o x.2 x.1.1 x.1.2

end Servers

/-- **A compilation ends with the first fault of the document.** -/
theorem fault?_compile_eq_head? (d : Document) (o : Options) :
    fault? (compile d o) = d.faults.head? := by
  rw [fault?_compile, Document.faults, List.head?_flatMap]
  congr 1
  funext p
  exact fault?_pass o

/-! ## When and how a compilation fails -/

/-- What can be wrong with a server that speaks a protocol: one of its own extensions, its port, or
a parameter of any channel of the document. -/
inductive Faulty (p : Protocol) (d : Document) (s : Server) : Prop
  | version {key : String} (mem : key = "x-trigger-version" ∨ key = "x-activity-version")
      (wrong : Mistyped s.extensions key .string)
  /-- Extensions about the connection matter for MQTT only. -/
  | connection (mqtt : p = .mqtt) {key : String} {expected : Kind}
      (mem : (key, expected) ∈ connectionExtensions) (wrong : Mistyped s.extensions key expected)
  | port (wrong : BadPort s)
  | parameter {channel : String} {c : Channel} (mem : (channel, c) ∈ d.channels.entries)
      {name : String} {q : Parameter} (mem' : (name, q) ∈ c.parameters.parameters)
      (wrong : Mistyped q.extensions "x-multilevel" .boolean)

/-- Some extension of a server is at fault, told by its name. -/
theorem exists_mem_serverExtensions_iff {p : Protocol} {s : Server} :
    (∃ x ∈ p.serverExtensions, Mistyped s.extensions x.1 x.2) ↔
      (∃ key, (key = "x-trigger-version" ∨ key = "x-activity-version") ∧
        Mistyped s.extensions key .string) ∨
      p = .mqtt ∧ ∃ x ∈ connectionExtensions, Mistyped s.extensions x.1 x.2 := by
  unfold Protocol.serverExtensions
  constructor
  · rintro ⟨x, mem, wrong⟩
    rcases List.mem_append.1 mem with mem | mem
    · rcases List.mem_pair.1 mem with rfl | rfl
      · exact .inl ⟨_, .inl rfl, wrong⟩
      · exact .inl ⟨_, .inr rfl, wrong⟩
    · by_cases mqtt : p = .mqtt
      · rw [if_pos mqtt] at mem
        exact .inr ⟨mqtt, x, mem, wrong⟩
      · rw [if_neg mqtt] at mem
        cases mem
  · rintro (⟨key, rfl | rfl, wrong⟩ | ⟨mqtt, x, mem, wrong⟩)
    · exact ⟨("x-trigger-version", .string), by simp [versionExtensions], wrong⟩
    · exact ⟨("x-activity-version", .string), by simp [versionExtensions], wrong⟩
    · rw [if_pos mqtt]
      exact ⟨x, List.mem_append_right _ mem, wrong⟩

/-- A server has faults if something is wrong with it. -/
theorem exists_mem_serverFaults_iff {p : Protocol} {d : Document} {name : String} {s : Server} :
    (∃ fault, fault ∈ serverFaults p d name s) ↔ Faulty p d s := by
  simp only [serverFaults, List.mem_append, exists_or, exists_mem_extensionFaults_iff,
    exists_mem_portFaults_iff, exists_mem_parameterFaults_iff, exists_mem_serverExtensions_iff]
  constructor
  · rintro (((⟨key, mem, wrong⟩ | ⟨mqtt, x, mem, wrong⟩) | wrong) | ⟨x, mem, y, mem', wrong⟩)
    · exact .version mem wrong
    · exact .connection mqtt mem wrong
    · exact .port wrong
    · exact .parameter mem mem' wrong
  · intro faulty
    cases faulty with
    | version mem wrong => exact .inl (.inl (.inl ⟨_, mem, wrong⟩))
    | connection mqtt mem wrong => exact .inl (.inl (.inr ⟨mqtt, _, mem, wrong⟩))
    | port wrong => exact .inl (.inr wrong)
    | parameter mem mem' wrong => exact .inr ⟨_, mem, _, mem', wrong⟩

/-- A document has faults if something is wrong with a server that is supported. -/
theorem exists_mem_faults_iff {d : Document} :
    (∃ fault, fault ∈ d.faults) ↔
      ∃ x ∈ d.servers.servers, ∃ p,
        (Protocol.ofIdentifier? x.2.protocol).map Prod.fst = some p ∧ Faulty p d x.2 := by
  simp only [Document.faults, List.mem_flatMap, List.mem_filter, ← Protocol.isNamedBy_iff]
  constructor
  · rintro ⟨fault, p, -, x, ⟨mem, named⟩, h⟩
    exact ⟨x, mem, p, named, exists_mem_serverFaults_iff.1 ⟨fault, h⟩⟩
  · rintro ⟨x, mem, p, named, faulty⟩
    have faults : ∃ fault, fault ∈ serverFaults p d x.1 x.2 := exists_mem_serverFaults_iff.2 faulty
    obtain ⟨fault, h⟩ := faults
    exact ⟨fault, p, p.mem_all, x, ⟨mem, named⟩, h⟩

/-- The fault of a result is the one that it holds. -/
theorem fault?_eq_some_iff {α : Type} {r : Except Fault α} {fault : Fault} :
    fault? r = some fault ↔ r = .error fault := by
  cases r <;> simp [fault?]

/-- Faults depend on servers and on the parameters of channels, and on nothing else. -/
theorem faults_congr {d d' : Document} (servers : d'.servers = d.servers)
    (parameters : d'.channels.map Channel.parameters = d.channels.map Channel.parameters) :
    d'.faults = d.faults := by
  have all : ∀ d : Document, parameterFaults d =
      (d.channels.map Channel.parameters).entries.flatMap fun x => channelFaults x.1 x.2 := by
    intro d
    rw [Dict.map, List.flatMap_map]
    rfl
  simp only [Document.faults, serverFaults, servers, all, parameters]

/-- **When and how a compilation fails.**  It fails if some supported server has an extension of
another type that is read, or a port without variables that is no integer of 64 bits, or if there is
such a server and a parameter of some channel has an extension of another type.  The fault is the
first one of the document; so neither the options nor the operations of channels have an influence
on it. -/
theorem fault_of_compile (d : Document) (o : Options) :
    ((∃ fault, compile d o = .error fault) ↔
      ∃ x ∈ d.servers.servers, ∃ p,
        (Protocol.ofIdentifier? x.2.protocol).map Prod.fst = some p ∧ Faulty p d x.2) ∧
    (∀ fault, compile d o = .error fault ↔ d.faults.head? = some fault) ∧
    ∀ (d' : Document) (o' : Options), d'.servers = d.servers →
      d'.channels.map Channel.parameters = d.channels.map Channel.parameters →
      fault? (compile d' o') = fault? (compile d o) := by
  have first : ∀ fault, compile d o = .error fault ↔ d.faults.head? = some fault := by
    intro fault
    rw [← fault?_compile_eq_head? d o, fault?_eq_some_iff]
  refine ⟨?_, first, fun d' o' servers parameters => ?_⟩
  · rw [← exists_mem_faults_iff]
    simp only [first]
    cases d.faults with
    | nil => simp
    | cons fault faults => exact iff_of_true ⟨fault, rfl⟩ ⟨fault, List.mem_cons_self⟩
  · rw [fault?_compile_eq_head?, fault?_compile_eq_head?, faults_congr servers parameters]

/-! ## A document with several faults -/

/-- A document whose faults are met in another order than they are written: the broker comes first
among the protocols, and its port before the parameters. -/
def faultyDocument : Document where
  asyncapi := "2.0.0"
  id := none
  info := { title := "faulty", version := "1.0.0" }
  servers := .list [
    plainServer "web" "web.example" "https" (Dict.ofList [("x-activity-version", .integer 2)]),
    plainServer "broker" "broker:nine" "kafka" (Dict.ofList [("x-store", .integer 7)])]
  channels := Dict.ofList [("door", {
    description := none
    parameters := .list [⟨some "id", none, none, Dict.ofList [("x-multilevel", .text "yes")]⟩]
    subscribe := none
    publish := none })]
  components := none

/-- A document with several faults fails with the first in order, and with the next once that is
gone. -/
theorem faultyDocument_fault :
    compile faultyDocument {} = .error (.port "nine" "broker:nine") ∧
    (faultyDocument.faults.map Fault.message = [
      "Invalid port 'nine' in server url broker:nine",
      "Invalid extension x-multilevel on parameter id of channel door: expected a boolean, " ++
        "found \"yes\"",
      "Invalid extension x-activity-version on server web: expected a string, found 2",
      "Invalid extension x-multilevel on parameter id of channel door: expected a boolean, " ++
        "found \"yes\""]) ∧
    fault? (compile { faultyDocument with
      channels := faultyDocument.channels.map fun c => { c with publish := plainChannel.publish } }
      { role := .client }) = some (.port "nine" "broker:nine") := by
  obtain ⟨-, first, independent⟩ := fault_of_compile faultyDocument {}
  have fails : compile faultyDocument {} = .error (.port "nine" "broker:nine") :=
    (first _).2 rfl
  refine ⟨fails, by decide +kernel, ?_⟩
  exact (independent _ { role := .client } rfl rfl).trans (congrArg fault? fails)

end EventGateway
