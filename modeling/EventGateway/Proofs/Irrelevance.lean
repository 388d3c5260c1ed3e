import EventGateway.Proofs.Faults
import Mathlib.Data.List.Forall2
import Mathlib.Tactic.FinCases

/-!
# What a compilation does not look at

Documents may say more than a compilation reads: servers and parameters may carry extensions that
nobody knows, binding information may have sections for other tools, and a server whose protocol is
not supported is not looked at beyond its name and its identifier.  All of this may be changed, and
an extension that is read may be written as null instead of being left out, without any influence on
the result.

Two documents are `Alike` if they show a compilation the same.  The relation is built up as
documents are: dictionaries that show the same under the keys that are read (`ShowSame`), servers,
parameters, operations and channels that are alike, and last documents.  Each reader and each stage
of a pass then gives the same for things that are alike, whether it succeeds or fails.

## Main statements

* `ServerExtensions.read_congr`, `OperationBindings.read_congr` — readers see what is shown.
* `pass_of_alike` — a pass emits the same and ends in the same way.
* `compile_of_alike` — documents that are alike have the same compilations.
-/

namespace EventGateway

open AsyncApi

/-! ## Dictionaries that show the same -/

/-- What a dictionary shows under a key: null stands for nothing. -/
def shown? (d : Dict Value) (key : String) : Option Value :=
  (d.find? key).filter fun value => !value.isNull

/-- A dictionary shows nothing under a key that is missing or has null, and otherwise the value. -/
theorem shown?_cases (d : Dict Value) (key : String) :
    (d.find? key = none ∧ shown? d key = none) ∨
      ∃ value, d.find? key = some value ∧
        ((value.isNull = true ∧ shown? d key = none) ∨
          (value.isNull = false ∧ shown? d key = some value)) := by
  unfold shown?
  cases d.find? key with
  | none => exact .inl ⟨rfl, rfl⟩
  | some value => cases h : value.isNull <;> simp [Option.filter, h]

/-- Two dictionaries show the same under some keys. -/
def ShowSame (keys : List String) (d d' : Dict Value) : Prop :=
  ∀ key ∈ keys, shown? d' key = shown? d key

/-- Two objects show the same at two lists of keys if they do at each. -/
theorem showSame_append {keys keys' : List String} {d d' : Dict Value} :
    ShowSame (keys ++ keys') d d' ↔ ShowSame keys d d' ∧ ShowSame keys' d d' :=
  List.forall_mem_append

/-- A reader of an extension sees what is shown under its key. -/
theorem readExtension_eq {α : Type} (owner : String) (extensions : Dict Value) (key : String)
    (expected : Kind) (read : Value → Option α) :
    readExtension owner extensions key expected read =
      match shown? extensions key with
      | none => .ok none
      | some value =>
        match read value with
        | some a => .ok (some a)
        | none => .error (.extension key owner expected value) := by
  unfold readExtension
  obtain ⟨missing, shown⟩ | ⟨value, found, ⟨null, shown⟩ | ⟨set, shown⟩⟩ :=
    shown?_cases extensions key
  · simp [missing, shown]
  · simp [found, null, shown]
  · cases h : read value <;> simp [found, set, shown, h]

/-- Reading an extension depends on what shows at its key. -/
theorem readExtension_congr {α : Type} {keys : List String} {extensions extensions' : Dict Value}
    (same : ShowSame keys extensions extensions') (owner key : String) (mem : key ∈ keys)
    (expected : Kind) (read : Value → Option α) :
    readExtension owner extensions' key expected read =
      readExtension owner extensions key expected read := by
  rw [readExtension_eq, readExtension_eq, same key mem]

/-! ## Servers -/

namespace AsyncApi

/-- Two servers show the same to the pass of a protocol: they differ at most in the extensions that
are not read of its servers. -/
structure Server.AlikeFor (p : Protocol) (s s' : Server) : Prop where
  url : s'.url = s.url
  urlVariables : s'.urlVariables = s.urlVariables
  security : s'.security = s.security
  baseChannel : s'.baseChannel = s.baseChannel
  extensions : ShowSame (p.serverExtensions.map Prod.fst) s.extensions s'.extensions

/-- Two servers that show the same: they have the same identifier, and if a protocol is named by it,
they show the same to its pass. -/
structure Server.Alike (s s' : Server) : Prop where
  protocol : s'.protocol = s.protocol
  supported : ∀ p : Protocol, p.isNamedBy s.protocol = true → s.AlikeFor p s'

/-- **The extensions of a server** are read alike if they show the same under the keys that are read
of its protocol. -/
theorem ServerExtensions.read_congr {p : Protocol} {extensions extensions' : Dict Value}
    (same : ShowSame (p.serverExtensions.map Prod.fst) extensions extensions') (owner : String) :
    ServerExtensions.read owner extensions' p.profile.connectionExtensions =
      ServerExtensions.read owner extensions p.profile.connectionExtensions := by
  rw [connectionExtensions_eq, List.map_append, showSame_append] at same
  obtain ⟨versions, connection⟩ := same
  unfold ServerExtensions.read
  generalize p.profile.connectionExtensions = connected at connection ⊢
  rw [readExtension_congr versions owner "x-trigger-version" (by decide),
    readExtension_congr versions owner "x-activity-version" (by decide)]
  cases connected with
  | false => rfl
  | true =>
    rw [readExtension_congr connection owner "x-store" (by decide),
      readExtension_congr connection owner "x-clean-session" (by decide),
      readExtension_congr connection owner "x-keep-alive" (by decide),
      readExtension_congr connection owner "x-auto-reconnect" (by decide),
      readExtension_congr connection owner "x-skip-verify" (by decide),
      readExtension_congr connection owner "x-use-systemcert" (by decide)]

/-! ## Channels -/

/-- Two parameters that show the same. -/
def Parameter.Alike (p p' : Parameter) : Prop :=
  ShowSame ["x-multilevel"] p.extensions p'.extensions

/-- Two pieces of binding information that show the same: they are the same, or both are objects and
show the same in the sections that are known. -/
def BindingsAlike (raw raw' : Option Value) : Prop :=
  raw' = raw ∨ ∃ value value' root root', raw = some value ∧ raw' = some value' ∧
    value.members? = some root ∧ value'.members? = some root' ∧
    ShowSame ["flogo-http", "flogo-mqtt", "flogo-kafka"] root root'

/-- Two operations that show the same. -/
def Operation.Alike (o o' : Operation) : Prop :=
  BindingsAlike o.protocolInfo o'.protocolInfo

/-- Two channels that show the same. -/
structure Channel.Alike (c c' : Channel) : Prop where
  parameters : List.Forall₂ (fun x x' => x'.1 = x.1 ∧ x.2.Alike x'.2)
    c.parameters.parameters c'.parameters.parameters
  subscribe : Option.Rel Operation.Alike c.subscribe c'.subscribe
  publish : Option.Rel Operation.Alike c.publish c'.publish

/-- Two documents that show a compilation the same.  They have servers of the same names in the same
order and channels of the same names, and these are alike. -/
structure Document.Alike (d d' : Document) : Prop where
  id : d'.id = d.id
  info : d'.info = d.info
  components : d'.components = d.components
  servers : List.Forall₂ (fun x x' => x'.1 = x.1 ∧ x.2.Alike x'.2)
    d.servers.servers d'.servers.servers
  channels : List.Forall₂ (fun x x' => x'.1 = x.1 ∧ x.2.Alike x'.2)
    d.channels.entries d'.channels.entries

/-- Channels that are alike have operations that are. -/
theorem Channel.Alike.operation? {c c' : Channel} (h : c.Alike c') (direction : Direction) :
    Option.Rel Operation.Alike (c.operation? direction) (c'.operation? direction) := by
  cases direction
  · exact h.subscribe
  · exact h.publish

/-- A section is read as it is shown. -/
theorem readSection_eq {α : Type} (part : Section) (root : Dict Value)
    (read : Dict Value → α × List Defect) :
    readSection part root read =
      match shown? root part.key with
      | none => (none, [])
      | some value =>
        match value.members? with
        | none => (none, [.sectionNoObject part])
        | some members => (some (read members).1, (read members).2) := by
  unfold readSection
  obtain ⟨missing, shown⟩ | ⟨value, found, ⟨null, shown⟩ | ⟨set, shown⟩⟩ :=
    shown?_cases root part.key
  · simp [missing, shown]
  · simp [found, null, shown]
  · cases h : value.members? <;> simp [found, set, shown, h]

/-- What has members is not `null`. -/
theorem isNull_of_members? {value : Value} {members : Dict Value}
    (h : value.members? = some members) : value.isNull = false := by
  obtain ⟨json, canonical⟩ := value
  cases json <;> first | rfl | cases h

/-- **Binding information** is read alike, with the same defects, if it shows the same in the
sections that are known. -/
theorem OperationBindings.read_congr {raw raw' : Option Value} (h : BindingsAlike raw raw') :
    OperationBindings.read raw' = OperationBindings.read raw := by
  rcases h with same | ⟨value, value', root, root', rfl, rfl, object, object', same⟩
  · rw [same]
  · have each : ∀ {α : Type} (part : Section) (read : Dict Value → α × List Defect),
        readSection part root' read = readSection part root read := by
      intro α part read
      rw [readSection_eq, readSection_eq, same part.key (by cases part <;> decide)]
    simp only [OperationBindings.read, isNull_of_members? object, isNull_of_members? object',
      object, object', each]

end AsyncApi

/-! ## Walks over things that are alike -/

/-- Walks give the same if their steps do. -/
theorem mapM_of_forall₂ {m : Type → Type} [Monad m] [LawfulMonad m] {α α' β : Type}
    {R : α → α' → Prop} {l : List α} {l' : List α'} {f : α → m β} {g : α' → m β}
    (alike : List.Forall₂ R l l') (step : ∀ a a', R a a' → g a' = f a) : l'.mapM g = l.mapM f := by
  induction alike with
  | nil => rfl
  | cons head _ ih => rw [List.mapM_cons, List.mapM_cons, step _ _ head, ih]

/-- Related lists are related place by place. -/
theorem forall₂_zipIdx {α α' : Type} {R : α → α' → Prop} {l : List α} {l' : List α'}
    (h : List.Forall₂ R l l') (position : Nat) :
    List.Forall₂ (fun x x' => x'.2 = x.2 ∧ R x.1 x'.1) (l.zipIdx position)
      (l'.zipIdx position) := by
  induction h generalizing position with
  | nil => exact .nil
  | cons head _ ih =>
    rw [List.zipIdx_cons, List.zipIdx_cons]
    exact .cons ⟨rfl, head⟩ (ih (position + 1))

/-- Parameters that are alike are read as the same. -/
theorem ChannelParameter.readAll_congr {l l' : Layout Parameter} (channel : String)
    (alike : List.Forall₂ (fun x x' => x'.1 = x.1 ∧ x.2.Alike x'.2) l.parameters l'.parameters) :
    ChannelParameter.readAll channel l' = ChannelParameter.readAll channel l := by
  refine mapM_of_forall₂ alike ?_
  rintro ⟨name, p⟩ ⟨name', p'⟩ ⟨named, same⟩
  obtain rfl : name' = name := named
  show ChannelParameter.read channel name' p' = ChannelParameter.read channel name' p
  have shown : ShowSame ["x-multilevel"] p.extensions p'.extensions := same
  have multilevel := readExtension_congr shown ("parameter " ++ name' ++ " of channel " ++ channel)
    "x-multilevel" (List.mem_singleton.2 rfl) .boolean Value.bool?
  simp only [ChannelParameter.read, multilevel]

/-! ## Passes -/

section Channels

variable {role : Role} {p : Protocol} {base : Option String} {e : Endpoint} {name : String}
  {c c' : Channel}

/-- Operations that are alike have the same binding information and the same warnings about it. -/
theorem readBindings_of_alike {o o' : Operation} (h : o.Alike o') (channel : String)
    (direction : Direction) :
    readBindings channel direction o' =
      readBindings channel direction o := by
  simp only [readBindings, OperationBindings.read_congr h]

/-- Channels that are alike have the same handler. -/
theorem compileHandler_of_alike (h : c.Alike c') :
    compileHandler role p e name c' = compileHandler role p e name c := by
  have operations := h.operation? role.inbound
  unfold compileHandler
  generalize c.operation? role.inbound = o at operations ⊢
  generalize c'.operation? role.inbound = o' at operations ⊢
  cases operations with
  | none => rfl
  | some same => simp only [readBindings_of_alike same]

/-- Channels that are alike have the same service. -/
theorem compileService_of_alike (h : c.Alike c') :
    compileService role p e name c' = compileService role p e name c := by
  have operations := h.operation? role.outbound
  unfold compileService
  generalize c.operation? role.outbound = o at operations ⊢
  generalize c'.operation? role.outbound = o' at operations ⊢
  cases operations with
  | none => rfl
  | some same =>
    cases p.activity with
    | none => rfl
    | some activity => simp only [readBindings_of_alike same]

/-- **A channel** gives the same for a server. -/
theorem compileChannel_of_alike (h : c.Alike c') :
    compileChannel role p base e name c' =
      compileChannel role p base e name c := by
  unfold compileChannel
  simp only [ChannelParameter.readAll_congr name h.parameters, compileHandler_of_alike h,
    compileService_of_alike h]

end Channels

section Documents

variable {p : Protocol} {d d' : Document}

/-- **The connection of a server** that speaks a protocol. -/
theorem connect_of_alike (h : d.Alike d') {s s' : Server} (same : s.Alike s')
    (speaks : p.isNamedBy s.protocol = true) (index : Nat) (name : String) :
    connect p d' index name s' = connect p d index name s := by
  obtain ⟨url, urlVariables, security, -, extensions⟩ := same.supported p speaks
  have connected : ∀ label, connectUrl label name s' = connectUrl label name s := by
    intro label
    simp only [connectUrl, undeclaredVariables, url, urlVariables]
  have port : ∀ label, connectPort label s' = connectPort label s := by
    intro label
    simp only [connectPort, url]
  have properties : ∀ label, serverProperties label s' = serverProperties label s := by
    intro label
    simp only [serverProperties, urlVariables]
  have user : d'.usesUserPassword s' = d.usesUserPassword s := by
    simp only [Document.usesUserPassword, Document.schemeType?, h.components, security]
  rw [connect_eq, connect_eq, ServerExtensions.read_congr extensions]
  simp only [connected, port, properties, user, same.protocol]

/-- Servers that are alike compile to the same. -/
theorem compileServer_of_alike (h : d.Alike d') {s s' : Server} (same : s.Alike s')
    (speaks : p.isNamedBy s.protocol = true) (o : Options) (index : Nat) (name : String) :
    compileServer o p d' index name s' =
      compileServer o p d index name s := by
  have base : s'.baseChannel = s.baseChannel := (same.supported p speaks).baseChannel
  have channels : ∀ e, (d'.channels.entries.mapM fun x =>
      compileChannel o.role p s.baseChannel e x.1 x.2) =
      d.channels.entries.mapM fun x =>
        compileChannel o.role p s.baseChannel e x.1 x.2 := by
    intro e
    refine mapM_of_forall₂ h.channels ?_
    rintro ⟨name, c⟩ ⟨_, c'⟩ ⟨rfl, alike⟩
    exact compileChannel_of_alike alike
  unfold compileServer
  simp only [connect_of_alike h same speaks, base, channels]

/-- The servers of a protocol stand in the same places. -/
theorem protocolServers_of_alike (h : d.Alike d') (p : Protocol) :
    List.Forall₂ (fun x x' => x'.2 = x.2 ∧ x'.1.1 = x.1.1 ∧ x.1.2.Alike x'.1.2)
      (protocolServers p d) (protocolServers p d') := by
  refine List.rel_filter (fun x x' alike => ?_) (forall₂_zipIdx h.servers 0)
  show p.isNamedBy x.1.2.protocol = true ↔ p.isNamedBy x'.1.2.protocol = true
  rw [alike.2.2.protocol]

/-- **A pass** emits the same for documents that are alike, and ends in the same way. -/
theorem pass_of_alike (h : d.Alike d') (o : Options) (p : Protocol) :
    pass o p d' = pass o p d := by
  -- Only servers that speak the protocol are compiled, so membership is kept beside likeness.
  have servers : List.Forall₂ (fun x x' => x ∈ protocolServers p d ∧
      x'.2 = x.2 ∧ x'.1.1 = x.1.1 ∧ x.1.2.Alike x'.1.2)
      (protocolServers p d) (protocolServers p d') :=
    (List.forall₂_and_left _ _).2
      ⟨fun _ mem => mem, protocolServers_of_alike h p⟩
  unfold pass
  refine congrArg₂ Bind.bind (mapM_of_forall₂ servers ?_) rfl
  rintro ⟨⟨name, s⟩, index⟩ ⟨⟨_, s'⟩, _⟩ ⟨mem, rfl, rfl, same⟩
  exact compileServer_of_alike h same (List.mem_filter.1 mem).2 o _ _

/-- Servers that are not supported are reported by name and identifier. -/
theorem unsupportedServers_of_alike (h : d.Alike d') :
    unsupportedServers d' = unsupportedServers d := by
  have servers := h.servers
  unfold unsupportedServers
  generalize d.servers.servers = xs at servers ⊢
  generalize d'.servers.servers = xs' at servers ⊢
  induction servers with
  | nil => rfl
  | @cons x x' _ _ head _ ih =>
    obtain ⟨name, s⟩ := x
    obtain ⟨name', s'⟩ := x'
    obtain ⟨named, same⟩ := head
    obtain rfl : name' = name := named
    have protocol : s'.protocol = s.protocol := same.protocol
    rw [List.filterMap_cons, List.filterMap_cons, ih]
    simp only [protocol]

end Documents

/-! ## Compilations -/

/-- **What is not looked at has no influence.**  Two documents that show a compilation the same end
with the same fault, or have the same application, the same methods and the same warnings, whatever
the options are. -/
theorem compile_of_alike {d d' : Document} (h : d.Alike d') (o : Options) :
    compile d' o = compile d o := by
  have walk : passes o d' = passes o d := Trace.mapM_congr fun p _ => pass_of_alike h o p
  have start : startContext d' o = startContext d o := by
    simp only [startContext, Document.appName, h.id, h.info, unsupportedServers_of_alike h]
  rw [compile_eq, compile_eq, walk, start]

/-! ## A document with notes -/

/-- A channel with one parameter and an operation with binding information. -/
def notedChannel (parameter bindings : Dict Value) : Channel where
  description := none
  parameters := .list [⟨some "room", none, none, parameter⟩]
  subscribe := some ⟨none, none, none, some (.object bindings), none⟩
  publish := none

/-- A document with two servers that are supported and one that is not. -/
def notedDocument (broker web : Dict Value) (queue : Server) (parameter bindings : Dict Value) :
    Document where
  asyncapi := "2.0.0"
  id := none
  info := { title := "noted", version := "1.0.0" }
  servers := .list [plainServer "broker" "broker:1883" "mqtt" broker,
    plainServer "web" "web.example" "http" web, queue]
  channels := Dict.ofList [("/rooms/\x7broom\x7d", notedChannel parameter bindings)]
  components := none

/-- The document without notes. -/
def terseDocument : Document :=
  notedDocument (Dict.ofList [("x-keep-alive", .integer 30)]) ∅ (plainServer "queue" "queue" "amqp")
    (Dict.ofList [("x-multilevel", .bool true)])
    (Dict.ofList [("flogo-mqtt", .object (Dict.ofList [("qos", .integer 1)]))])

/-- The document with notes wherever nobody looks: the extension of another protocol with a value of
another type, null for extensions that are not set, keys for other tools, and another URL where it
does not count. -/
def wordyDocument : Document :=
  notedDocument
    (Dict.ofList [("x-keep-alive", .integer 30), ("x-owner", .text "operations"),
      ("x-store", .null)])
    (Dict.ofList [("x-keep-alive", .text "30s"), ("x-trigger-version", .null)])
    { plainServer "queue" "amqp://\x7bhost\x7d:port" "amqp"
        (Dict.ofList [("x-trigger-version", .integer 1)]) with
      urlVariables := Dict.ofList [("host", {})], baseChannel := some "base",
      security := [Dict.ofList [("user", [])]] }
    (Dict.ofList [("x-multilevel", .bool true), ("x-unit", .text "door")])
    (Dict.ofList [("amqp", .integer 1),
      ("flogo-mqtt", .object (Dict.ofList [("qos", .integer 1)]))])

/-- The two documents are alike. -/
theorem alike_wordyDocument : terseDocument.Alike wordyDocument where
  id := rfl
  info := rfl
  components := rfl
  servers := by
    refine .cons ⟨rfl, rfl, ?_⟩ (.cons ⟨rfl, rfl, ?_⟩ (.cons ⟨rfl, rfl, ?_⟩ .nil))
    · intro p speaks
      obtain rfl : p = .mqtt := Protocol.eq_of_isNamedBy speaks rfl
      refine ⟨rfl, rfl, rfl, rfl, ?_⟩
      intro key mem
      fin_cases mem <;> rfl
    · intro p speaks
      obtain rfl : p = .http := Protocol.eq_of_isNamedBy speaks rfl
      refine ⟨rfl, rfl, rfl, rfl, ?_⟩
      intro key mem
      fin_cases mem <;> rfl
    · intro p speaks
      cases p <;> cases speaks
  channels := by
    refine .cons ⟨rfl, ?_, .some (.inr ⟨_, _, _, _, rfl, rfl, rfl, rfl, ?_⟩), .none⟩ .nil
    · refine .cons ⟨rfl, fun key mem => ?_⟩ .nil
      obtain rfl := List.mem_singleton.1 mem
      rfl
    · intro key mem
      fin_cases mem <;> rfl

/-- Both documents compile to the same. -/
theorem compile_wordyDocument :
    terseDocument.Alike wordyDocument ∧
    compile wordyDocument {} = compile terseDocument {} ∧
    ∃ c, compile wordyDocument {} = .ok c ∧
      c.app.triggers.map Flogo.Trigger.id = ["mqtt0", "http1"] := by
  refine ⟨alike_wordyDocument, compile_of_alike alike_wordyDocument {}, ?_⟩
  have outcome : (compile wordyDocument {}).toOption.map
      (fun c => c.app.triggers.map Flogo.Trigger.id) = some ["mqtt0", "http1"] := by
    decide +kernel
  exact Trace.exists_ok_of_toOption outcome

end EventGateway
