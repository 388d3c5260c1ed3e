import EventGateway.Proofs.Context
import EventGateway.Proofs.Lookup
import EventGateway.Proofs.Naming
import EventGateway.Proofs.Outcome
import EventGateway.Proofs.PlainPass
import EventGateway.Proofs.Trace

/-!
# Passes without shared state

The passes of a compilation share one context, in which they look up what earlier ones have found
out about the bindings of operations, and within a pass the endpoint of a server goes from channel
to channel.  None of this shows.  As long as the context knows only what the document says
(`ReadFrom`), a pass takes up exactly what the plain pass of its protocol emits and returns the same
(`lower_eq`), so a compilation is a fold of the context over five plain passes (`compile_eq`).

The proof goes through both passes side by side (`Follows`).  What keeps them together is that the
endpoint on its way differs from that of the server in topic, parameters and binding information
only (`ServerState.Has`), and these three are overwritten before they are used.

## Main statements

* `lowerChannel_follows` — one channel, whatever the channels before it have left behind.
* `Context.lower_eq` — running a pass on a context takes up what the plain pass emits.
* `compile_eq` — a compilation from the plain passes of all protocols.
* `collects_of_compile` — what the parts of a compilation consist of.
-/

namespace EventGateway

open AsyncApi
open Flogo (Handler Service)

/-! ## Binding information does not depend on who reads it -/

/-- What a document says about the bindings of an operation, and what is left out of it. -/
def AsyncApi.Document.bindings? (d : Document) (channel : String) (direction : Direction) :
    Option (OperationBindings × List Defect) :=
  ((d.channels.find? channel).bind (·.operation? direction)).map fun o =>
    OperationBindings.read o.protocolInfo

/-- All that a context knows about the bindings of operations was read from a document. -/
def ReadFrom (d : Document) (c : Context) : Prop :=
  ∀ channel direction info, c.bindings? channel direction = some info →
    (d.bindings? channel direction).map Prod.fst = some info

/-- The binding information of an operation, found by the name of its channel. -/
theorem bindings?_of_mem {d : Document} {name : String} {c : Channel}
    (mem : (name, c) ∈ d.channels.entries) {direction : Direction} {o : Operation}
    (ho : c.operation? direction = some o) :
    d.bindings? name direction = some (OperationBindings.read o.protocolInfo) := by
  rw [Document.bindings?, Dict.find?_of_mem mem, Option.bind_some, ho, Option.map_some]

/-! ## What connecting a server emits -/

/-- Connecting a server emits properties whose names start with a label, and warnings about
variables that are not declared. -/
def Emission.Connects (label : String) : Emission → Prop
  | property p => ∃ rest, p.name = label ++ rest
  | warning w => ∃ server name, w = .undeclaredVariable server name
  | _ => False

/-- The properties of the values of a variable begin with its name. -/
theorem name_of_mem_valueProperties {name : String} {default : Option String} {position : Nat}
    {values : List String} {q : Flogo.Property}
    (mem : q ∈ valueProperties name default position values) : ∃ rest, q.name = name ++ rest := by
  induction values generalizing position with
  | nil => cases mem
  | cons value values ih =>
    rw [valueProperties] at mem
    rcases List.mem_cons.1 mem with rfl | mem
    · by_cases isDefault : default = some value
      · exact ⟨"", by simp [Flogo.Property.string, isDefault]⟩
      · exact ⟨"_" ++ toString position, by
          simp [Flogo.Property.string, isDefault, String.append_assoc]⟩
    · exact ih mem

/-- The properties of a variable begin with its name. -/
theorem name_of_mem_variableProperties {name : String} {v : ServerVariable} {q : Flogo.Property}
    (mem : q ∈ variableProperties name v) : ∃ rest, q.name = name ++ rest := by
  rcases List.mem_append.1 mem with mem | mem
  · exact name_of_mem_valueProperties mem
  · split at mem
    · cases mem
    · obtain rfl := List.mem_singleton.1 mem
      exact ⟨"", by simp [Flogo.Property.string]⟩

/-- The properties of a server begin with its label. -/
theorem name_of_mem_serverProperties {label : String} {s : Server} {q : Flogo.Property}
    (mem : q ∈ serverProperties label s) : ∃ rest, q.name = label ++ rest := by
  obtain ⟨⟨name, v⟩, -, mem⟩ := List.mem_flatMap.1 mem
  obtain ⟨rest, eq⟩ := name_of_mem_variableProperties mem
  exact ⟨"_" ++ name ++ rest, by rw [eq, propertyName]; simp only [String.append_assoc]⟩

/-- Making the expression of a URL only warns. -/
theorem connectUrl_emits (label name : String) (s : Server) :
    (connectUrl label name s).Emits (Emission.Connects label) := by
  simp only [connectUrl]
  split
  · refine Trace.Emits.bind (Trace.emits_emitAll.2 ?_) fun _ _ => Trace.emits_pure _
    simp [Emission.Connects]
  · refine Trace.Emits.bind (Trace.emits_emitAll.2 ?_) fun _ _ => Trace.emits_pure _
    simp [Emission.Connects, Flogo.Property.string]

/-- Making the expression of a port only adds a property of the server. -/
theorem connectPort_emits (label : String) (s : Server) :
    (connectPort label s).Emits (Emission.Connects label) := by
  simp only [connectPort]
  split
  · exact Trace.emits_pure _
  · split
    · exact Trace.emits_pure _
    · split
      · exact Trace.emits_ofExcept _
      · refine Trace.Emits.bind (Trace.emits_emitAll.2 ?_) fun _ _ => Trace.emits_pure _
        simp [Emission.Connects, Flogo.Property.integer]

/-- Connecting a server emits its properties and warnings about it. -/
theorem Binding.connect_emits (b : Binding) (d : Document) (index : Nat) (name : String)
    (s : Server) : (b.connect d index name s).Emits (Emission.Connects (b.label index)) := by
  refine Trace.Emits.bind (Trace.emits_ofExcept _) fun extensions _ => ?_
  refine Trace.Emits.bind (Trace.emits_emitAll.2 ?_) fun _ _ => ?_
  · intro e mem
    obtain ⟨q, mem', rfl⟩ := List.mem_map.1 mem
    exact name_of_mem_serverProperties mem'
  · refine (connectUrl_emits _ _ _).bind fun url _ => ?_
    exact (connectPort_emits _ _).bind fun port _ => Trace.emits_pure _

/-- Connecting a server emits its properties and warnings about it, and nothing of another server.
-/
theorem connect_emits (p : Protocol) (d : Document) (index : Nat) (name : String) (s : Server) :
    (connect p d index name s).Emits (Emission.Connects (serverLabel p index)) :=
  p.binding.connect_emits d index name s

theorem isVisible_of_connects {label : String} {e : Emission} (h : e.Connects label) :
    e.isVisible = true := by
  cases e <;> first | rfl | exact h.elim

/-- Whether an emission is of the kinds that channels and microgateways lead to. -/
def Emission.isPart : Emission → Bool
  | importing _ | trigger _ | resource _ | method _ => true
  | _ => false

theorem isVisible_of_isPart {e : Emission} (h : e.isPart = true) : e.isVisible = true := by
  cases e <;> first | rfl | cases h

/-- Binding information that is emitted is what a document says, and warnings are about variables
that are not declared. -/
def Emission.IsFrom (d : Document) : Emission → Prop
  | bindings channel direction info defects => d.bindings? channel direction = some (info, defects)
  | warning w => ∃ server name, w = .undeclaredVariable server name
  | _ => True

theorem isFrom_of_isPart {d : Document} {e : Emission} (h : e.isPart = true) : e.IsFrom d := by
  cases e with
  | bindings => cases h
  | warning => cases h
  | _ => trivial

theorem isFrom_of_connects {d : Document} {label : String} {e : Emission} (h : e.Connects label) :
    e.IsFrom d := by
  cases e with
  | bindings => exact h.elim
  | warning => exact h
  | _ => trivial

/-! ## Parts of a pass -/

/-- A trigger and its import belong to the application. -/
theorem isPart_of_mem_triggerEmissions {catalog : Catalog} {b : Binding} {x : ServerExtensions}
    {t : Flogo.Trigger} {em : Emission} (mem : em ∈ b.triggerEmissions catalog x t) :
    em.isPart = true := by
  unfold Binding.triggerEmissions at mem
  split at mem
  · cases mem
  · rcases List.mem_pair.1 mem with rfl | rfl <;> rfl

/-- The import of an activity belongs to the application. -/
theorem isPart_of_mem_activityEmissions {catalog : Catalog} {b : Binding} {x : ServerExtensions}
    {services : List Service} {em : Emission} (mem : em ∈ b.activityEmissions catalog x services) :
    em.isPart = true := by
  unfold Binding.activityEmissions at mem
  split at mem
  · cases mem
  · obtain ⟨text, -, rfl⟩ := List.mem_map.1 mem
    rfl

/-- What a server contributes through its channels. -/
theorem isPart_of_mem_serverEmissions {o : Options} {p : Protocol} {index : Nat} {e : Endpoint}
    {handlers : List Handler} {services : List Service} {em : Emission}
    (mem : em ∈ triggerEmissions o p index e handlers ++ activityEmissions o p e services) :
    em.isPart = true := by
  rcases List.mem_append.1 mem with mem | mem
  · exact isPart_of_mem_triggerEmissions mem
  · exact isPart_of_mem_activityEmissions mem

/-- Resources and what they need belong to the application. -/
theorem isPart_of_mem_assemble {profile : Profile} {hasTriggers : Bool}
    {services : List Service} {em : Emission}
    (mem : em ∈ Gateway.assemble profile hasTriggers services) : em.isPart = true := by
  unfold Gateway.assemble Gateway.inboundEmissions Gateway.outboundEmissions at mem
  rcases List.mem_append.1 mem with mem | mem <;> split at mem <;>
    simp only [List.mem_cons, List.not_mem_nil, or_false] at mem <;>
    rcases mem with rfl | rfl | rfl | rfl | rfl <;> rfl

section Passes

variable {d : Document}

/-! ### Binding information that passes emit -/

/-- Binding information that is read is that of the document. -/
theorem readBindings_isFrom {channel : String} {direction : Direction} {o : Operation}
    (ho : d.bindings? channel direction = some (OperationBindings.read o.protocolInfo)) :
    (readBindings channel direction o).Emits (Emission.IsFrom d) := by
  intro e mem
  obtain rfl := List.mem_singleton.1 mem
  exact ho

/-- What a channel emits is as the document says. -/
theorem compileChannel_isFrom (role : Role) (p : Protocol) (base : Option String) (e : Endpoint)
    {name : String} {c : Channel} (mem : (name, c) ∈ d.channels.entries) :
    (compileChannel role p base e name c).Emits (Emission.IsFrom d) := by
  refine Trace.Emits.bind (Trace.emits_ofExcept _) fun parameters _ => ?_
  refine Trace.Emits.bind ?_ fun handler _ => Trace.Emits.bind ?_ fun service _ =>
    Trace.emits_pure _
  · unfold compileHandler
    cases ho : c.operation? role.inbound with
    | none => exact Trace.emits_pure _
    | some o =>
      exact (readBindings_isFrom (bindings?_of_mem mem ho)).bind fun _ _ => Trace.emits_pure _
  · unfold compileService
    cases ho : c.operation? role.outbound with
    | none => exact Trace.emits_pure _
    | some o =>
      cases p.activity with
      | none => exact Trace.emits_pure _
      | some activity =>
        exact (readBindings_isFrom (bindings?_of_mem mem ho)).bind fun _ _ =>
          Trace.emits_pure _

/-- What a server emits is as the document says. -/
theorem compileServer_isFrom (o : Options) (p : Protocol) (index : Nat) (name : String)
    (s : Server) : (compileServer o p d index name s).Emits (Emission.IsFrom d) := by
  refine Trace.Emits.bind ?_ fun e _ => Trace.Emits.bind ?_ fun parts _ =>
    Trace.Emits.bind (Trace.emits_emitAll.2 fun em mem => ?_) fun _ _ => Trace.emits_pure _
  · exact (connect_emits p d index name s).mono fun em h => isFrom_of_connects h
  · exact Trace.Emits.mapM fun x mem => compileChannel_isFrom o.role p s.baseChannel e mem
  · exact isFrom_of_isPart (isPart_of_mem_serverEmissions mem)

/-- What a pass emits is as the document says. -/
theorem pass_isFrom (o : Options) (p : Protocol) (d : Document) :
    (pass o p d).Emits (Emission.IsFrom d) := by
  refine Trace.Emits.bind (Trace.Emits.mapM fun x _ => ?_) fun parts _ => ?_
  · exact compileServer_isFrom o p x.2 x.1.1 x.1.2
  · exact Trace.emits_emitAll.2 fun e mem => isFrom_of_isPart (isPart_of_mem_assemble mem)

/-- What all passes emit is as the document says. -/
theorem isFrom_of_mem_passes {o : Options} {d : Document} {e : Emission}
    (mem : e ∈ Protocol.all.flatMap fun p => (pass o p d).emitted) : e.IsFrom d := by
  obtain ⟨p, -, mem⟩ := List.mem_flatMap.1 mem
  exact pass_isFrom o p d e mem

end Passes

/-! ## Passes on a context -/

section Follows

variable {α β γ δ σ : Type} {d : Document}

/-- A context that knows only what the document says goes on to do so. -/
theorem readFrom_absorb {c : Context} (h : ReadFrom d c) {e : Emission} (isFrom : e.IsFrom d) :
    ReadFrom d (c.absorb e) := by
  intro channel direction info found
  rcases Context.bindings?_absorb_cases c e found with old | ⟨defects, rfl⟩
  · exact h channel direction info old
  · rw [show d.bindings? channel direction = some (info, defects) from isFrom]
    rfl

/-- Taking up many emissions, the context knows only what the document says. -/
theorem readFrom_absorbAll {c : Context} (h : ReadFrom d c) {es : List Emission}
    (all : ∀ e ∈ es, e.IsFrom d) : ReadFrom d (c.absorbAll es) := by
  induction es generalizing c with
  | nil => exact h
  | cons e es ih =>
    obtain ⟨head, tail⟩ := List.forall_mem_cons.1 all
    exact ih (readFrom_absorb h head) tail

/-- A computation on a context follows a trace: on a context that knows only what a document says,
it takes up what the trace emits and leaves a context of the same kind, and the results agree. -/
def Follows (d : Document) (R : α → β → Prop) (m : CompileM α) (t : Trace β) : Prop :=
  ∀ c, ReadFrom d c → ReadFrom d (c.absorbAll t.emitted) ∧
    ∃ result, m.outcome c = (c.absorbAll t.emitted, result) ∧ Agree R result t.result

variable {R : α → β → Prop} {S : γ → δ → Prop}

theorem follows_pure {a : α} {b : β} (h : R a b) :
    Follows d R (pure a : CompileM α) (pure b : Trace β) :=
  fun _ known => ⟨known, _, rfl, .ok h⟩

/-- A trace that is taken up follows itself. -/
theorem follows_ofTrace {t : Trace α} (h : t.Emits (Emission.IsFrom d)) :
    Follows d Eq (CompileM.ofTrace t) t :=
  fun _ known => ⟨readFrom_absorbAll known h, _, rfl, Agree.refl t.result⟩

theorem follows_ofExcept (r : Except Fault α) :
    Follows d Eq (CompileM.ofExcept r) (Trace.ofExcept r) :=
  fun _ known => ⟨known, _, rfl, Agree.refl r⟩

/-- **Sequences follow sequences.** -/
theorem Follows.bind {m : CompileM α} {t : Trace β} (h : Follows d R m t) {f : α → CompileM γ}
    {g : β → Trace δ} (h' : ∀ a b, R a b → Follows d S (f a) (g b)) :
    Follows d S (m >>= f) (t >>= g) := by
  intro c known
  obtain ⟨known', result, outcome, agree⟩ := h c known
  cases ended : t.result with
  | error fault =>
    rw [ended] at agree
    cases agree
    rw [Trace.bind_of_error ended]
    exact ⟨known', _, CompileM.outcome_bind_of_error outcome f, .fault fault⟩
  | ok b =>
    rw [ended] at agree
    cases agree with
    | ok related =>
      obtain ⟨known'', result, outcome', agree⟩ := h' _ _ related _ known'
      rw [Trace.bind_of_ok ended]
      simp only [Context.absorbAll_append]
      exact ⟨known'', result, (CompileM.outcome_bind_of_ok outcome f).trans outcome', agree⟩

/-- The relation of the results may be weakened. -/
theorem Follows.mono {m : CompileM α} {t : Trace β} (h : Follows d R m t) {R' : α → β → Prop}
    (imp : ∀ a b, R a b → R' a b) : Follows d R' m t := by
  intro c known
  obtain ⟨known', result, outcome, agree⟩ := h c known
  exact ⟨known', result, outcome, agree.mono imp⟩

/-- The results of both may be changed, if the changed ones are related. -/
theorem Follows.map {m : CompileM α} {t : Trace β} (h : Follows d R m t) {f : α → γ} {g : β → δ}
    (h' : ∀ a b, R a b → S (f a) (g b)) :
    Follows d S (m >>= fun a => pure (f a)) (t >>= fun b => pure (g b)) :=
  h.bind fun a b related => follows_pure (h' a b related)

/-- The same with a result that is only read off on the side of the trace. -/
theorem Follows.map_right {m : CompileM α} {t : Trace β} (h : Follows d R m t) {g : β → δ}
    {S : α → δ → Prop} (h' : ∀ a b, R a b → S a (g b)) :
    Follows d S m (t >>= fun b => pure (g b)) := by
  rw [← bind_pure m]
  exact h.map (f := id) h'

/-- Two walks over a list follow each other if their steps do. -/
theorem follows_mapM {l : List α} {f : α → CompileM β} {g : α → Trace β}
    (h : ∀ a ∈ l, Follows d Eq (f a) (g a)) : Follows d Eq (l.mapM f) (l.mapM g) := by
  induction l with
  | nil => exact follows_pure rfl
  | cons a l ih =>
    obtain ⟨head, tail⟩ := List.forall_mem_cons.1 h
    rw [List.mapM_cons, List.mapM_cons]
    refine head.bind fun b _ same => (ih tail).map fun bs _ same' => ?_
    rw [same, same']

/-- A walk without results follows one whose results are not looked at. -/
theorem follows_forM {l : List α} {f : α → CompileM PUnit} {g : α → Trace β}
    (h : ∀ a ∈ l, Follows d (fun _ _ => True) (f a) (g a)) :
    Follows d (fun _ _ => True) (l.forM f) (l.mapM g) := by
  induction l with
  | nil => exact follows_pure trivial
  | cons a l ih =>
    obtain ⟨head, tail⟩ := List.forall_mem_cons.1 h
    rw [List.mapM_cons]
    exact head.bind fun _ b _ => (ih tail).map_right fun _ bs _ => trivial

/-- **A state that goes through a list.**  The state after some items is related to what the trace
has returned for them. -/
theorem follows_foldlM {l : List α} {step : σ → α → CompileM σ} {g : α → Trace β}
    {I : σ → List β → Prop}
    (h : ∀ a ∈ l, ∀ s bs, I s bs → Follows d (fun s' b => I s' (bs ++ [b])) (step s a) (g a))
    {s : σ} {bs : List β} (start : I s bs) :
    Follows d (fun s' bs' => I s' (bs ++ bs')) (l.foldlM step s) (l.mapM g) := by
  induction l generalizing s bs with
  | nil =>
    rw [List.mapM_nil]
    exact follows_pure ((List.append_nil bs).symm ▸ start)
  | cons a l ih =>
    obtain ⟨head, tail⟩ := List.forall_mem_cons.1 h
    rw [List.foldlM_cons, List.mapM_cons]
    refine (head s bs start).bind fun s' b next => (ih tail next).map_right fun s'' bs' last => ?_
    rwa [List.append_assoc, List.singleton_append] at last

end Follows

section Lowering

variable {d : Document} {role : Role} {p : Protocol} {name : String} {c : Channel}

/-- **Binding information that is looked up is what would be read.** -/
theorem operationBindings_follows {channel : String} {direction : Direction} {o : Operation}
    (ho : d.bindings? channel direction = some (OperationBindings.read o.protocolInfo)) :
    Follows d Eq (operationBindings channel direction o) (readBindings channel direction o) := by
  intro c known
  have isFrom := readFrom_absorbAll known (readBindings_isFrom ho)
  refine ⟨isFrom, ?_⟩
  unfold operationBindings
  rw [CompileM.outcome_bind_of_ok (CompileM.outcome_get c)]
  cases hk : c.bindings? channel direction with
  | none => exact ⟨_, rfl, .ok rfl⟩
  | some info =>
    -- What is looked up was read from the document, and reading it again adds nothing.
    have same := known channel direction info hk
    rw [ho, Option.map_some, Option.some_inj] at same
    refine ⟨.ok info, Prod.ext ?_ rfl, .ok same.symm⟩
    exact (Context.absorb_bindings_of_isSome c (by rw [hk]; rfl) _ _).symm

/-- What a server has on its way, after some channels: the endpoint without channel but for topic,
parameters and binding information, and the handlers and services of these channels. -/
structure ServerState.Has (state : ServerState) (e : Endpoint) (parts : List ChannelParts) :
    Prop where
  endpoint : ∃ topic parameters bindings, state.endpoint = { e with topic, parameters, bindings }
  handlers : state.handlers = parts.filterMap ChannelParts.handler
  services : state.services = parts.filterMap ChannelParts.service

/-- The endpoint of a state is a given one but for its binding information. -/
def ServerState.At (state : ServerState) (e : Endpoint) : Prop :=
  ∃ bindings, state.endpoint = { e with bindings }

/-- **The handler of a channel** is put at the end of those of its server. -/
theorem lowerHandler_follows {e : Endpoint} {state : ServerState} (placed : state.At e)
    (mem : (name, c) ∈ d.channels.entries) :
    Follows d (fun state' handler => state'.At e ∧
        state'.handlers = state.handlers ++ handler.toList ∧ state'.services = state.services)
      (lowerHandler role p.binding name c state) (compileHandler role p e name c) := by
  obtain ⟨old, eq⟩ := placed
  unfold lowerHandler compileHandler
  cases ho : c.operation? role.inbound with
  | none => exact follows_pure ⟨⟨old, eq⟩, (List.append_nil _).symm, rfl⟩
  | some o =>
    refine (operationBindings_follows (bindings?_of_mem mem ho)).map fun bindings _ same => ?_
    subst same
    rw [eq]
    exact ⟨⟨bindings, rfl⟩, rfl, rfl⟩

/-- **The service of a channel** is put at the end of those of its server. -/
theorem lowerService_follows {e : Endpoint} {state : ServerState} (placed : state.At e)
    (mem : (name, c) ∈ d.channels.entries) :
    Follows d (fun state' service => state'.At e ∧
        state'.handlers = state.handlers ∧ state'.services = state.services ++ service.toList)
      (lowerService role p.binding name c state) (compileService role p e name c) := by
  obtain ⟨old, eq⟩ := placed
  unfold lowerService compileService
  cases ho : c.operation? role.outbound with
  | none => exact follows_pure ⟨⟨old, eq⟩, rfl, (List.append_nil _).symm⟩
  | some o =>
    cases activity : p.activity with
    | none =>
      simp only [Protocol.binding, activity]
      exact follows_pure ⟨⟨old, eq⟩, rfl, (List.append_nil _).symm⟩
    | some activity =>
      simp only [Protocol.binding, activity]
      refine (operationBindings_follows (bindings?_of_mem mem ho)).map fun bindings _ same => ?_
      subst same
      rw [eq]
      exact ⟨⟨bindings, rfl⟩, rfl, rfl⟩

/-- **One channel**, whatever the channels before it have left behind. -/
theorem lowerChannel_follows {base : Option String} {e : Endpoint} {state : ServerState}
    {parts : List ChannelParts} (has : state.Has e parts)
    (mem : (name, c) ∈ d.channels.entries) :
    Follows d (fun state' part => state'.Has e (parts ++ [part]))
      (lowerChannel role p.binding base state (name, c)) (compileChannel role p base e name c) := by
  obtain ⟨⟨topic, parameters, bindings, eq⟩, handlers, services⟩ := has
  unfold lowerChannel compileChannel
  refine (follows_ofExcept _).bind fun parameters _ same => ?_
  subst same
  rw [eq]
  refine (lowerHandler_follows ⟨bindings, rfl⟩ mem).bind fun state' handler => ?_
  rintro ⟨placed, handlers', services'⟩
  refine (lowerService_follows placed mem).map_right fun state'' service => ?_
  rintro ⟨⟨bindings, eq'⟩, handlers'', services''⟩
  refine ⟨⟨_, _, _, eq'⟩, ?_, ?_⟩
  · rw [handlers'', handlers', handlers, List.filterMap_append]
    cases handler <;> rfl
  · rw [services'', services', services, List.filterMap_append]
    cases service <;> rfl

/-- **A server on a context** gives what the plain server gives: its settings, which go from channel
to channel, end with everything that its channels make on their own. -/
theorem lowerServer_follows (o : Options) (index : Nat) (name : String) (s : Server) :
    Follows d Eq (lowerServer o p.binding d index name s) (compileServer o p d index name s) := by
  unfold lowerServer compileServer
  refine (follows_ofTrace ?_).bind fun e _ same => ?_
  · exact (connect_emits p d index name s).mono fun em h => isFrom_of_connects h
  subst same
  have start : ServerState.Has { endpoint := e } e [] := ⟨⟨_, _, _, rfl⟩, rfl, rfl⟩
  have step : ∀ x ∈ d.channels.entries, ∀ (state : ServerState) parts, state.Has e parts →
      Follows d (fun state' part => state'.Has e (parts ++ [part]))
        (lowerChannel o.role p.binding s.baseChannel state x)
        (compileChannel o.role p s.baseChannel e x.1 x.2) :=
    fun x mem state parts has => lowerChannel_follows has mem
  refine (follows_foldlM step start).bind fun state parts => ?_
  rintro ⟨⟨topic, parameters, bindings, eq⟩, handlers, services⟩
  rw [eq, handlers, services]
  refine (follows_ofTrace (Trace.emits_emitAll.2 fun em mem => ?_)).bind fun _ _ _ =>
    follows_pure rfl
  exact isFrom_of_isPart (isPart_of_mem_serverEmissions mem)

/-- **A pass on a context follows the plain pass.** -/
theorem lowerProtocol_follows (o : Options) (p : Protocol) (d : Document) :
    Follows d Eq (lowerProtocol o p.binding d) (pass o p d) := by
  refine (follows_mapM fun x _ => lowerServer_follows o x.2 x.1.1 x.1.2).bind fun parts _ same => ?_
  subst same
  exact follows_ofTrace (Trace.emits_emitAll.2 fun e mem =>
    isFrom_of_isPart (isPart_of_mem_assemble mem))

end Lowering

/-- **Running a pass** on a context that knows only what the document says takes up what the plain
pass emits. -/
theorem Context.lower_eq {d : Document} {c : Context} (h : ReadFrom d c) (o : Options)
    (p : Protocol) :
    c.lower o p.binding d = (c.absorbAll (pass o p d).emitted, (pass o p d).result) := by
  obtain ⟨-, result, outcome, agree⟩ := lowerProtocol_follows o p d c h
  rw [← agree.eq]
  exact outcome

/-- A compilation starts with warnings about servers that are not supported, and with no others. -/
theorem eq_of_mem_unsupportedServers {d : Document} {w : Warning}
    (mem : w ∈ unsupportedServers d) :
    ∃ server protocol, w = .unsupportedProtocol server protocol := by
  obtain ⟨x, -, eq⟩ := List.mem_filterMap.1 mem
  by_cases unsupported : (Protocol.ofIdentifier? x.2.protocol).isNone = true
  · simp only [if_pos unsupported] at eq
    exact ⟨_, _, (Option.some.inj eq).symm⟩
  · simp only [if_neg unsupported] at eq
    cases eq

/-! ## Compilations -/

/-- The passes of all protocols, each on its own. -/
def passes (o : Options) (d : Document) : Trace (List Unit) :=
  Protocol.all.mapM (pass o · d)

/-- **A compilation is a fold over what the passes emit on their own.** -/
theorem compile_eq (d : Document) (o : Options) :
    compile d o =
      (passes o d).result.map fun _ =>
        ((startContext d o).absorbAll (passes o d).emitted).finish := by
  have known : ReadFrom d (startContext d o) := by
    intro channel direction info found
    cases found
  have walk : Follows d (fun _ _ => True)
      (Protocol.all.forM fun p => lowerProtocol o p.binding d) (passes o d) :=
    follows_forM fun p _ => (lowerProtocol_follows o p d).mono fun _ _ _ => trivial
  obtain ⟨-, result, outcome, agree⟩ := walk _ known
  rw [compile, outcome]
  generalize (passes o d).result = result' at agree
  cases agree <;> rfl

/-- A compilation sees a document by its start and by its passes. -/
theorem compile_congr {d d' : Document} {o : Options} (start : startContext d' o = startContext d o)
    (walk : ∀ p, pass o p d' = pass o p d) : compile d' o = compile d o := by
  have same : passes o d' = passes o d := Trace.mapM_congr fun p _ => walk p
  rw [compile_eq, compile_eq, same, start]

/-- A compilation succeeds if all passes do. -/
theorem compile_eq_ok_iff {d : Document} {o : Options} {c : Compilation} :
    compile d o = .ok c ↔
      (∀ p, (pass o p d).result = .ok ()) ∧
        c = ((startContext d o).absorbAll
          (Protocol.all.flatMap fun p => (pass o p d).emitted)).finish := by
  have walk : (∀ p, (pass o p d).result = .ok ()) →
      passes o d = ⟨Protocol.all.flatMap fun p => (pass o p d).emitted,
        .ok (Protocol.all.map fun _ => ())⟩ :=
    fun h => Trace.mapM_of_ok fun p _ => h p
  rw [compile_eq]
  constructor
  · intro h
    cases result : (passes o d).result with
    | error fault =>
      rw [result] at h
      cases h
    | ok units =>
      have all : ∀ p, (pass o p d).result = .ok () := fun p =>
        (Trace.exists_ok_of_mapM result p p.mem_all).elim fun _ h => h
      rw [walk all] at h
      exact ⟨all, (Except.ok.inj h).symm⟩
  · rintro ⟨all, rfl⟩
    rw [walk all]
    rfl

/-- The items of one kind that a trace emits. -/
def Trace.items {α β : Type} (item? : Emission → Option β) (t : Trace α) : List β :=
  t.emitted.filterMap item?

/-- **What a compilation consists of.**  Triggers and resources are those of the passes in a row;
properties, imports and methods are the first of each key among those of the passes in a row. -/
structure Compilation.Collects (c : Compilation) (d : Document) (o : Options) : Prop where
  triggers : c.app.triggers =
    Protocol.all.flatMap fun p => (pass o p d).items Emission.trigger?
  resources : c.app.resources =
    Protocol.all.flatMap fun p => (pass o p d).items Emission.resource?
  properties : c.app.properties = firstOfEach Flogo.Property.name []
    (Protocol.all.flatMap fun p => (pass o p d).items Emission.property?)
  imports : c.app.imports = firstOfEach Import.key []
    (Protocol.all.flatMap fun p => (pass o p d).items Emission.importing?)
  methods : c.methods = firstOfEach id []
    (Protocol.all.flatMap fun p => (pass o p d).items Emission.method?)

/-- **Every compilation** consists of what its passes emit. -/
theorem collects_of_compile {d : Document} {o : Options} {c : Compilation}
    (h : compile d o = .ok c) : c.Collects d o := by
  obtain ⟨-, rfl⟩ := compile_eq_ok_iff.1 h
  have triggers : (startContext d o).app.triggers = [] := rfl
  have resources : (startContext d o).app.resources = [] := rfl
  have properties : (startContext d o).properties.properties = [] := rfl
  have imports : (startContext d o).imports.imports = [] := rfl
  have methods : (startContext d o).methods = [] := rfl
  constructor
  · rw [Context.triggers_finish, Context.triggers_absorbAll, triggers, List.nil_append,
      List.filterMap_flatMap]
    rfl
  · rw [Context.resources_finish, Context.resources_absorbAll, resources, List.nil_append,
      List.filterMap_flatMap]
    rfl
  · rw [Context.properties_finish, Context.properties_absorbAll,
      PropertyRegistry.properties_registerAll, properties, List.nil_append, List.map_nil,
      List.filterMap_flatMap]
    rfl
  · rw [Context.imports_finish, Context.imports_absorbAll, ImportRegistry.imports_registerAll,
      imports, List.nil_append, List.map_nil, List.filterMap_flatMap]
    rfl
  · rw [Context.methods_finish, Context.methods_absorbAll, addNames_eq, methods, List.nil_append,
      List.filterMap_flatMap]
    rfl

end EventGateway

