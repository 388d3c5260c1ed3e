import EventGateway.Proofs.ClosedDescriptor
import EventGateway.Proofs.Faults

/-!
# Contexts only grow

A context outlives the passes that run on it.  Whoever holds one may run passes of any binding over
any documents, whether they end well or with a fault, may add the microgateways of a protocol, and
may register properties, imports and methods by hand.  All of this is a list of emissions that the
context takes up, so what one emission leaves as it was is left as it was by the whole run: nothing
that the context has is ever changed or taken back.

How a pass ends shows in its microgateways.  They come last, so a pass that ends with a fault leaves
no resource and no method behind, and a pass that ends well leaves no reference of its own dangling.
The context may be any, so nothing is assumed about the binding information that it knows, and the
binding may be any, so nothing is assumed about its settings and modules.

A computation on a context is specified by what it takes up (`CompileM.Takes`): one property for the
case that it ends well, and another for the case that a fault ends it halfway.  Each construct that
passes are written with has a rule, so the specification of a pass is put together like the pass.

## Main statements

* `Context.grows_absorbAll`, `Context.distinct_absorbAll` — what emissions keep.
* `CompileM.Takes.bind`, `CompileM.takes_mapM`, `CompileM.keeps_foldlM` — sequences and loops.
* `lowerServer_takes` — a server adds no resource and no method, and its triggers start the
  microgateway of its protocol.
* `lowerProtocol_takes` — a pass that ends well names its own resources only.
* `Context.run_grows` — everything that holds of whole runs.
-/

namespace EventGateway

open AsyncApi
open Flogo (Action App Handler Property Service Trigger)

/-- An application without its triggers and resources: name, type, version, description and model,
and the imports and properties that it came with. -/
def Flogo.App.heading (app : App) : App :=
  { app with triggers := [], resources := [] }

namespace Context

/-- A context has what an earlier one had, in the same order, and perhaps more behind it; the
application is still the same one. -/
structure Grows (c c' : Context) : Prop where
  heading : c'.app.heading = c.app.heading
  triggers : c.app.triggers <+: c'.app.triggers
  resources : c.app.resources <+: c'.app.resources
  properties : c.properties.properties <+: c'.properties.properties
  conflicts : c.properties.conflicts <+: c'.properties.conflicts
  imports : c.imports.imports <+: c'.imports.imports
  methods : c.methods <+: c'.methods
  warnings : c.warnings <+: c'.warnings

/-- What goes through a registry is there once. -/
structure Distinct (c : Context) : Prop where
  propertyNames : (c.properties.properties.map Property.name).Nodup
  importKeys : (c.imports.imports.map Import.key).Nodup
  methods : c.methods.Nodup

/-! ## Emissions -/

/-- Emissions leave the heading of a descriptor alone. -/
theorem heading_absorbAll (c : Context) (es : List Emission) :
    (c.absorbAll es).app.heading = c.app.heading := by
  induction es generalizing c with
  | nil => rfl
  | cons e es ih =>
    rw [absorbAll_cons, ih]
    cases e <;> simp only [absorb, App.heading]
    split <;> rfl

/-- **Emissions only add to a context.** -/
theorem grows_absorbAll (c : Context) (es : List Emission) : c.Grows (c.absorbAll es) where
  heading := heading_absorbAll c es
  triggers := by
    rw [triggers_absorbAll]
    exact List.prefix_append _ _
  resources := by
    rw [resources_absorbAll]
    exact List.prefix_append _ _
  properties := by
    rw [properties_absorbAll, PropertyRegistry.properties_registerAll]
    exact List.prefix_append _ _
  conflicts := by
    rw [properties_absorbAll, PropertyRegistry.conflicts_registerAll_eq]
    exact List.prefix_append _ _
  imports := by
    rw [imports_absorbAll, ImportRegistry.imports_registerAll]
    exact List.prefix_append _ _
  methods := by
    rw [methods_absorbAll, addNames_eq]
    exact List.prefix_append _ _
  warnings := warnings_absorbAll c es

/-- **Emissions keep names apart.** -/
theorem distinct_absorbAll {c : Context} (h : c.Distinct) (es : List Emission) :
    (c.absorbAll es).Distinct where
  propertyNames := by
    rw [properties_absorbAll, PropertyRegistry.properties_registerAll]
    exact nodup_keys_append_firstOfEach _ h.propertyNames _
  importKeys := by
    rw [imports_absorbAll, ImportRegistry.imports_registerAll]
    exact nodup_keys_append_firstOfEach _ h.importKeys _
  methods := by
    have old : (c.methods.map id).Nodup := by simpa using h.methods
    have apart := nodup_keys_append_firstOfEach id old (es.filterMap Emission.method?)
    rw [methods_absorbAll, addNames_eq]
    simpa using apart

/-- A context that has only an application. -/
theorem distinct_start (app : App) : ({ app } : Context).Distinct where
  propertyNames := List.nodup_nil
  importKeys := List.nodup_nil
  methods := List.nodup_nil

end Context

/-! ## References between emissions -/

/-- The resources that the actions of a trigger start. -/
def Flogo.Trigger.uris (t : Trigger) : List String :=
  (t.handlers.flatMap Handler.actions).filterMap Action.uri?

/-- Every resource that an emitted trigger starts is emitted as well. -/
def Closes (es : List Emission) : Prop :=
  ∀ t, .trigger t ∈ es → ∀ uri ∈ t.uris, ∃ r, .resource r ∈ es ∧ r.id = uri

/-- No reference dangles if every trigger points at resources that are there. -/
theorem Flogo.App.danglingResourceRefs_eq_nil_iff {app : App} :
    app.danglingResourceRefs = [] ↔
      ∀ t ∈ app.triggers, ∀ uri ∈ t.uris, ∃ r ∈ app.resources, r.id = uri := by
  have uris : Trigger.uris = fun t => (t.handlers.flatMap Handler.actions).filterMap Action.uri? :=
    rfl
  have split : app.actions.filterMap Action.uri? = app.triggers.flatMap Trigger.uris := by
    simp only [uris, App.actions, List.flatMap_assoc, List.filterMap_flatMap]
  have found : ∀ uri, (app.resource? uri).isNone = false ↔ ∃ r ∈ app.resources, r.id = uri := by
    intro uri
    simp [App.resource?]
  rw [App.danglingResourceRefs, split, List.filter_eq_nil_iff, List.forall_mem_flatMap]
  simp only [Bool.not_eq_true, found]

/-- **Closed emissions leave no reference dangling.** -/
theorem Context.danglingResourceRefs_absorbAll {c : Context} {es : List Emission}
    (closed : c.app.danglingResourceRefs = []) (closes : Closes es) :
    (c.absorbAll es).app.danglingResourceRefs = [] := by
  rw [App.danglingResourceRefs_eq_nil_iff] at closed ⊢
  rw [triggers_absorbAll, resources_absorbAll]
  intro t mem uri named
  rcases List.mem_append.1 mem with old | new
  · obtain ⟨r, mem, eq⟩ := closed t old uri named
    exact ⟨r, List.mem_append_left _ mem, eq⟩
  · obtain ⟨e, emitted, eq⟩ := List.mem_filterMap.1 new
    cases e with
    | trigger t' =>
      obtain rfl := Option.some.inj eq
      obtain ⟨r, target, id⟩ := closes t' emitted uri named
      exact ⟨r, List.mem_append_right _ (List.mem_filterMap.2 ⟨_, target, rfl⟩), id⟩
    | _ => cases eq

/-- The microgateways of a protocol come with what its endpoint starts. -/
theorem closes_assemble (profile : Profile) (hasTriggers : Bool) (services : List Service) :
    Closes (Gateway.assemble profile hasTriggers services) := by
  intro t mem uri named
  unfold Gateway.assemble at mem ⊢
  rcases List.mem_append.1 mem with mem | mem
  · unfold Gateway.inboundEmissions at mem
    split at mem <;> simp at mem
  · unfold Gateway.outboundEmissions at mem ⊢
    split at mem
    · cases mem
    next some =>
      obtain rfl : t = Gateway.publishTrigger profile := by simpa using mem
      have start : (Gateway.publishTrigger profile).uris =
          [Gateway.resourceId (Gateway.publishName profile.name)] := by
        simp [Trigger.uris, Gateway.publishTrigger, Action.uri?, find?_uri_start, Value.text?,
          Value.text]
      rw [start, List.mem_singleton] at named
      rw [if_neg some]
      exact ⟨Gateway.outbound profile.name services, List.mem_append_right _ (by simp),
        named.symm⟩

/-! ## Passes on any context -/

namespace CompileM

variable {α β σ : Type} {F F' : List Emission → Prop} {Q Q' : List Emission → α → Prop}

/-- What a computation does to any context: it takes up emissions.  If it ends well, `Q` holds of
them and of the result; if it ends with a fault, `F` holds of what has been taken up until then. -/
def Takes (F : List Emission → Prop) (Q : List Emission → α → Prop) (m : CompileM α) : Prop :=
  ∀ c, ∃ es, (∃ a, m.outcome c = (c.absorbAll es, .ok a) ∧ Q es a) ∨
    ∃ fault, m.outcome c = (c.absorbAll es, .error fault) ∧ F es

theorem takes_pure {a : α} (h : Q [] a) : (pure a : CompileM α).Takes F Q :=
  fun _ => ⟨[], .inl ⟨a, rfl, h⟩⟩

/-- What is emitted is taken up. -/
theorem takes_emitAll {es : List Emission} {Q : List Emission → Unit → Prop} (h : Q es ()) :
    (emitAll es).Takes F Q :=
  fun _ => ⟨es, .inl ⟨(), rfl, h⟩⟩

/-- A result takes up nothing, whether it is a fault or not. -/
theorem takes_ofExcept {r : Except Fault α} (ok : ∀ a, Q [] a) (fault : F []) :
    (ofExcept r).Takes F Q := by
  intro c
  cases r with
  | error f => exact ⟨[], .inr ⟨f, rfl, fault⟩⟩
  | ok a => exact ⟨[], .inl ⟨a, rfl, ok a⟩⟩

/-- A trace takes up what it emits, also if it fails in the end. -/
theorem takes_ofTrace {t : Trace α} (ok : ∀ a, Q t.emitted a) (fault : F t.emitted) :
    (ofTrace t).Takes F Q := by
  intro c
  refine ⟨t.emitted, ?_⟩
  rw [outcome_ofTrace]
  cases t.result with
  | error f => exact .inr ⟨f, rfl, fault⟩
  | ok a => exact .inl ⟨a, rfl, ok a⟩

/-- What holds at the end and what holds at a fault may be weakened. -/
theorem Takes.mono {m : CompileM α} (h : m.Takes F Q) (ok : ∀ es a, Q es a → Q' es a)
    (fault : ∀ es, F es → F' es) : m.Takes F' Q' := by
  intro c
  obtain ⟨es, ⟨a, outcome, final⟩ | ⟨f, outcome, final⟩⟩ := h c
  · exact ⟨es, .inl ⟨a, outcome, ok es a final⟩⟩
  · exact ⟨es, .inr ⟨f, outcome, fault es final⟩⟩

/-- **Sequences take up what their steps take up**, in order. -/
theorem Takes.bind {m : CompileM α} {f : α → CompileM β} {S : List Emission → β → Prop}
    (h : m.Takes F Q)
    (h' : ∀ es a, Q es a → (f a).Takes (fun es' => F (es ++ es')) fun es' => S (es ++ es')) :
    (m >>= f).Takes F S := by
  intro c
  obtain ⟨es, ⟨a, outcome, final⟩ | ⟨fault, outcome, final⟩⟩ := h c
  · obtain ⟨es', next⟩ := h' es a final (c.absorbAll es)
    refine ⟨es ++ es', ?_⟩
    rwa [outcome_bind_of_ok outcome, Context.absorbAll_append]
  · exact ⟨es, .inr ⟨fault, outcome_bind_of_error outcome f, final⟩⟩

/-- A walk through a list keeps an invariant between what has been taken up and the results. -/
theorem takes_mapM {l : List α} {f : α → CompileM β} {I : List Emission → List β → Prop}
    (h : ∀ a ∈ l, ∀ es bs, I es bs →
      (f a).Takes (fun es' => F (es ++ es')) fun es' b => I (es ++ es') (bs ++ [b]))
    {es : List Emission} {bs : List β} (start : I es bs) :
    (l.mapM f).Takes (fun es' => F (es ++ es')) fun es' bs' => I (es ++ es') (bs ++ bs') := by
  induction l generalizing es bs with
  | nil =>
    rw [List.mapM_nil]
    refine takes_pure ?_
    rwa [List.append_nil, List.append_nil]
  | cons a l ih =>
    obtain ⟨head, tail⟩ := List.forall_mem_cons.1 h
    rw [List.mapM_cons]
    refine (head es bs start).bind fun es' b next => ?_
    simp only [← List.append_assoc]
    refine (ih tail next).bind fun es'' bs' last => takes_pure ?_
    simpa using last

/-- All that a computation takes up has a property, however it ends; if it ends well, so does its
result. -/
abbrev Keeps (P : Emission → Prop) (R : α → Prop) (m : CompileM α) : Prop :=
  m.Takes (fun es => ∀ e ∈ es, P e) fun es a => (∀ e ∈ es, P e) ∧ R a

variable {P : Emission → Prop} {R : α → Prop}

theorem keeps_pure {a : α} (h : R a) : (pure a : CompileM α).Keeps P R :=
  takes_pure ⟨List.forall_mem_nil _, h⟩

theorem keeps_ofExcept (r : Except Fault α) : (ofExcept r).Keeps P fun _ => True :=
  takes_ofExcept (fun _ => ⟨List.forall_mem_nil _, trivial⟩) (List.forall_mem_nil _)

/-- A trace keeps to what bounds its emissions. -/
theorem keeps_ofTrace {t : Trace α} (h : t.Emits P) : (ofTrace t).Keeps P fun _ => True :=
  takes_ofTrace (fun _ => ⟨h, trivial⟩) h

/-- **What comes after** a computation that keeps to a property is not disturbed by it, if its own
postconditions are not. -/
theorem Keeps.andThen {m : CompileM α} {f : α → CompileM β} {S : List Emission → β → Prop}
    (h : m.Keeps P R) (fault : ∀ es, (∀ e ∈ es, P e) → F es)
    (prepend : ∀ es es', (∀ e ∈ es, P e) → F es' → F (es ++ es'))
    (prepend' : ∀ es es' b, (∀ e ∈ es, P e) → S es' b → S (es ++ es') b)
    (h' : ∀ a, R a → (f a).Takes F S) : (m >>= f).Takes F S :=
  (h.mono (fun _ _ => id) fault).bind fun es a ⟨kept, result⟩ =>
    (h' a result).mono (fun es' b => prepend' es es' b kept) fun es' => prepend es es' kept

/-- A sequence keeps to what its steps keep to. -/
theorem Keeps.bind {m : CompileM α} {f : α → CompileM β} {S : β → Prop} (h : m.Keeps P R)
    (h' : ∀ a, R a → (f a).Keeps P S) : (m >>= f).Keeps P S :=
  h.andThen (fun _ => id) (fun _ _ kept kept' => List.forall_mem_append.2 ⟨kept, kept'⟩)
    (fun _ _ _ kept last => ⟨List.forall_mem_append.2 ⟨kept, last.1⟩, last.2⟩) h'

/-- **A state that goes through a list** keeps an invariant. -/
theorem keeps_foldlM {l : List α} {step : σ → α → CompileM σ} {I : σ → Prop}
    (h : ∀ a ∈ l, ∀ s, I s → (step s a).Keeps P I) {s : σ} (start : I s) :
    (l.foldlM step s).Keeps P I := by
  induction l generalizing s with
  | nil => exact keeps_pure start
  | cons a l ih =>
    obtain ⟨head, tail⟩ := List.forall_mem_cons.1 h
    rw [List.foldlM_cons]
    exact (head s start).bind fun s' next => ih tail next

end CompileM

/-- Neither a trigger nor a resource nor a method. -/
def Emission.IsSupport : Emission → Prop
  | trigger _ | resource _ | method _ => False
  | _ => True

/-- What a server may emit: no resource and no method, and no trigger that starts anything but the
microgateway of its protocol. -/
def Emission.Serves (b : Binding) : Emission → Prop
  | resource _ | method _ => False
  | trigger t => ∀ uri ∈ t.uris, uri = Gateway.resourceId b.profile.name
  | _ => True

section Passes

variable {role : Role} {b : Binding}

/-- What connecting a server emits is neither trigger, nor resource, nor method. -/
theorem isSupport_of_connects {label : String} {e : Emission} (h : e.Connects label) :
    e.IsSupport := by
  cases e with
  | trigger | resource | method => exact h.elim
  | _ => trivial

/-- What is no trigger and no resource serves every binding. -/
theorem serves_of_isSupport {e : Emission} (h : e.IsSupport) : e.Serves b := by
  cases e with
  | trigger | resource | method => exact h.elim
  | _ => trivial

/-- The handlers of a state are made for the protocol. -/
def ServerState.Made (b : Binding) (state : ServerState) : Prop :=
  ∀ handler ∈ state.handlers, ∃ e, handler = b.handler e

/-- Binding information is neither trigger, nor resource, nor method. -/
theorem operationBindings_keeps (channel : String) (direction : Direction) (op : Operation) :
    (operationBindings channel direction op).Keeps Emission.IsSupport fun _ => True := by
  intro c
  unfold operationBindings
  rw [CompileM.outcome_bind_of_ok (CompileM.outcome_get c)]
  cases c.bindings? channel direction with
  | none =>
    refine ⟨[.bindings channel direction (OperationBindings.read op.protocolInfo).1
      (OperationBindings.read op.protocolInfo).2], .inl ⟨_, rfl, ?_⟩⟩
    simp [Emission.IsSupport]
  | some info => exact ⟨[], .inl ⟨info, rfl, by simp⟩⟩

/-- The handlers of a server stay made from its binding. -/
theorem lowerHandler_keeps {state : ServerState} (made : state.Made b) (name : String)
    (c : Channel) :
    (lowerHandler role b name c state).Keeps Emission.IsSupport (ServerState.Made b) := by
  unfold lowerHandler
  cases c.operation? role.inbound with
  | none => exact CompileM.keeps_pure made
  | some op =>
    refine (operationBindings_keeps name role.inbound op).bind fun info _ => ?_
    refine CompileM.keeps_pure fun handler mem => ?_
    rcases List.mem_append.1 mem with mem | mem
    · exact made handler mem
    · exact ⟨_, List.mem_singleton.1 mem⟩

/-- The handlers of a server stay what they are when services are made. -/
theorem lowerService_keeps {state : ServerState} (made : state.Made b) (name : String)
    (c : Channel) :
    (lowerService role b name c state).Keeps Emission.IsSupport (ServerState.Made b) := by
  unfold lowerService
  cases c.operation? role.outbound with
  | none => exact CompileM.keeps_pure made
  | some op =>
    cases b.activityRef with
    | none => exact CompileM.keeps_pure made
    | some activity =>
      exact (operationBindings_keeps name role.outbound op).bind fun info _ =>
        CompileM.keeps_pure made

/-- **A channel** adds to the server a handler that is made for the protocol, and to the context
nothing that shows in the application. -/
theorem lowerChannel_keeps {base : Option String} {state : ServerState} (made : state.Made b)
    (x : String × Channel) :
    (lowerChannel role b base state x).Keeps Emission.IsSupport (ServerState.Made b) := by
  unfold lowerChannel
  refine (CompileM.keeps_ofExcept _).bind fun parameters _ => ?_
  -- Only the endpoint is overwritten, so the handlers are those from before.
  have placed : ∀ endpoint, ServerState.Made b { state with endpoint } := fun _ => made
  exact (lowerHandler_keeps (placed _) x.1 x.2).bind fun state' made' =>
    lowerService_keeps made' x.1 x.2

/-- A trigger whose handlers are made from a binding points at its resource. -/
theorem serves_of_made {t : Trigger} (made : ∀ handler ∈ t.handlers, ∃ e, handler = b.handler e) :
    (Emission.trigger t).Serves b := by
  intro uri mem
  obtain ⟨action, named, eq⟩ := List.mem_filterMap.1 mem
  obtain ⟨handler, handled, acts⟩ := List.mem_flatMap.1 named
  obtain ⟨e, rfl⟩ := made handler handled
  obtain rfl := List.mem_singleton.1 acts
  rw [Action.uri?, find?_uri_start] at eq
  exact (Option.some.inj eq).symm

/-- What a server emits and whether it says that it has a trigger. -/
def Emission.Served (b : Binding) (es : List Emission) (hasTrigger : Bool) : Prop :=
  (∀ e ∈ es, e.Serves b) ∧ ∀ t, .trigger t ∈ es → hasTrigger = true

/-- Emissions in a row have triggers if one of the two parts has. -/
theorem Emission.Served.append {es es' : List Emission} {first second : Bool}
    (h : Served b es first) (h' : Served b es' second) :
    Served b (es ++ es') (first || second) := by
  refine ⟨List.forall_mem_append.2 ⟨h.1, h'.1⟩, fun t mem => ?_⟩
  rcases List.mem_append.1 mem with mem | mem
  · rw [h.2 t mem, Bool.true_or]
  · rw [h'.2 t mem, Bool.or_true]

/-- Emissions without triggers are served. -/
theorem served_of_isSupport {es : List Emission} (h : ∀ e ∈ es, e.IsSupport) :
    Emission.Served b es false :=
  ⟨fun e mem => serves_of_isSupport (h e mem), fun _ mem => (h _ mem).elim⟩

/-- A trigger is emitted only if it has handlers. -/
theorem served_triggerEmissions {catalog : Catalog} {x : ServerExtensions} {t : Trigger}
    (made : ∀ handler ∈ t.handlers, ∃ e, handler = b.handler e) :
    Emission.Served b (b.triggerEmissions catalog x t) (!t.handlers.isEmpty) := by
  unfold Binding.triggerEmissions
  split
  · exact ⟨List.forall_mem_nil _, fun _ mem => by cases mem⟩
  next some =>
    refine ⟨fun e mem => ?_, fun _ _ => by simpa using some⟩
    rcases List.mem_pair.1 mem with rfl | rfl
    · trivial
    · exact serves_of_made made

/-- The import of an activity is no trigger, resource or method. -/
theorem isSupport_of_mem_activityEmissions {catalog : Catalog} {x : ServerExtensions}
    {services : List Service} {e : Emission}
    (mem : e ∈ b.activityEmissions catalog x services) : e.IsSupport := by
  unfold Binding.activityEmissions at mem
  split at mem
  · cases mem
  · obtain ⟨text, -, rfl⟩ := List.mem_map.1 mem
    trivial

/-- **A server** adds no resource and no method, and its triggers start the microgateway of its
protocol, which it asks for if it has any. -/
theorem lowerServer_takes (o : Options) (b : Binding) (d : Document) (index : Nat) (name : String)
    (s : Server) :
    (lowerServer o b d index name s).Takes (fun es => ∀ e ∈ es, e.Serves b) fun es part =>
      Emission.Served b es part.hasTrigger := by
  have fault : ∀ es : List Emission, (∀ e ∈ es, e.IsSupport) → ∀ e ∈ es, e.Serves b :=
    fun es support e mem => serves_of_isSupport (support e mem)
  have prepend : ∀ es es' : List Emission, (∀ e ∈ es, e.IsSupport) → (∀ e ∈ es', e.Serves b) →
      ∀ e ∈ es ++ es', e.Serves b :=
    fun es es' support serves => List.forall_mem_append.2 ⟨fault es support, serves⟩
  have prepend' : ∀ (es es' : List Emission) (part : ServerParts), (∀ e ∈ es, e.IsSupport) →
      Emission.Served b es' part.hasTrigger → Emission.Served b (es ++ es') part.hasTrigger := by
    intro es es' part support served
    rw [← Bool.false_or part.hasTrigger]
    exact (served_of_isSupport support).append served
  have connect := (b.connect_emits d index name s).mono fun e => isSupport_of_connects (e := e)
  refine (CompileM.keeps_ofTrace connect).andThen fault prepend prepend' fun e _ => ?_
  have start : ServerState.Made b { endpoint := e } := List.forall_mem_nil _
  refine (CompileM.keeps_foldlM (fun x _ state made => lowerChannel_keeps made x) start).andThen
    fault prepend prepend' fun state made => ?_
  -- Neither the connection nor a channel shows, so what is left is the trigger and its modules.
  have trigger : Emission.Served b (b.triggerEmissions o.catalog state.endpoint.extensions
      { b.trigger index e with handlers := state.handlers }) (!state.handlers.isEmpty) :=
    served_triggerEmissions made
  have activity : Emission.Served b
      (b.activityEmissions o.catalog state.endpoint.extensions state.services) false :=
    served_of_isSupport fun e mem => isSupport_of_mem_activityEmissions mem
  have served := trigger.append activity
  rw [Bool.or_false] at served
  exact (CompileM.takes_emitAll served).bind fun es _ served => CompileM.takes_pure (by
    rwa [List.append_nil])

/-- **A pass that ends well names its own resources only**; one that ends with a fault has not come
to its microgateways. -/
theorem lowerProtocol_takes (o : Options) (b : Binding) (d : Document) :
    (lowerProtocol o b d).Takes (fun es => ∀ e ∈ es, e.Serves b) fun es _ => Closes es := by
  have walk : ((b.servers d).mapM fun x => lowerServer o b d x.2 x.1.1 x.1.2).Takes
      (fun es => ∀ e ∈ es, e.Serves b)
      fun es parts => Emission.Served b es (parts.any ServerParts.hasTrigger) := by
    have start : Emission.Served b [] ([].any ServerParts.hasTrigger) :=
      ⟨List.forall_mem_nil _, fun _ mem => by cases mem⟩
    have walk := CompileM.takes_mapM (l := b.servers d) (F := fun es => ∀ e ∈ es, e.Serves b)
      (f := fun x => lowerServer o b d x.2 x.1.1 x.1.2)
      (I := fun es parts => Emission.Served b es (parts.any ServerParts.hasTrigger))
      (fun x _ es parts served => ?_) start
    · simpa only [List.nil_append] using walk
    refine (lowerServer_takes o b d x.2 x.1.1 x.1.2).mono (fun es' part served' => ?_)
      fun es' serves => List.forall_mem_append.2 ⟨served.1, serves⟩
    rw [List.any_append, List.any_cons, List.any_nil, Bool.or_false]
    exact served.append served'
  refine walk.bind fun es parts served => CompileM.takes_emitAll fun t mem uri named => ?_
  rcases List.mem_append.1 mem with mem | mem
  · refine ⟨Gateway.inbound b.profile.name, List.mem_append_right _ ?_,
      (served.1 _ mem uri named).symm⟩
    rw [Gateway.assemble, Gateway.inboundEmissions, if_pos (served.2 t mem)]
    exact List.mem_append_left _ List.mem_cons_self
  · obtain ⟨r, target, id⟩ := closes_assemble _ _ _ t mem uri named
    exact ⟨r, List.mem_append_right _ target, id⟩

end Passes

/-! ## Runs -/

namespace Context

variable {c : Context} {o : Options} {b : Binding} {d : Document}

/-- **A pass that succeeds** leaves no reference dangling if none was. -/
theorem danglingResourceRefs_lower (ok : (c.lower o b d).2 = .ok ())
    (closed : c.app.danglingResourceRefs = []) :
    (c.lower o b d).1.app.danglingResourceRefs = [] := by
  obtain ⟨es, ⟨_, outcome, closes⟩ | ⟨fault, outcome, -⟩⟩ := lowerProtocol_takes o b d c
  · rw [lower, outcome]
    exact danglingResourceRefs_absorbAll closed closes
  · rw [lower, outcome] at ok
    cases ok

/-- **A pass that fails** adds no resource and no method. -/
theorem lower_of_fault {fault : Fault} (h : (c.lower o b d).2 = .error fault) :
    (c.lower o b d).1.app.resources = c.app.resources ∧
      (c.lower o b d).1.methods = c.methods := by
  obtain ⟨es, ⟨_, outcome, -⟩ | ⟨fault', outcome, serves⟩⟩ := lowerProtocol_takes o b d c
  · rw [lower, outcome] at h
    cases h
  have resources : es.filterMap Emission.resource? = [] := by
    refine List.filterMap_eq_nil_iff.2 fun e mem => ?_
    cases e with
    | resource r => exact (serves _ mem).elim
    | _ => rfl
  have methods : es.filterMap Emission.method? = [] := by
    refine List.filterMap_eq_nil_iff.2 fun e mem => ?_
    cases e with
    | method name => exact (serves _ mem).elim
    | _ => rfl
  rw [lower, outcome, resources_absorbAll, methods_absorbAll, resources, methods, List.append_nil]
  exact ⟨rfl, rfl⟩

/-- Something that is done to a context. -/
inductive Step where
  /-- A pass, which may end with a fault. -/
  | lower (o : Options) (b : Binding) (d : Document)
  /-- The microgateways of a protocol are added. -/
  | assemble (profile : Profile) (hasTriggers : Bool) (services : List Service)
  | property (p : Property)
  | importing (text : String)
  | method (name : String)

/-- The context after a step. -/
def step (c : Context) : Step → Context
  | .lower o b d => (c.lower o b d).1
  | .assemble profile hasTriggers services =>
    c.absorbAll (Gateway.assemble profile hasTriggers services)
  | .property p => c.absorb (.property p)
  | .importing text => c.absorb (.importing text)
  | .method name => c.absorb (.method name)

/-- The context after some steps. -/
def run (c : Context) (steps : List Step) : Context :=
  steps.foldl step c

/-- Whatever is done, the context takes up emissions. -/
theorem exists_emissions_step (c : Context) (s : Step) : ∃ es, c.step s = c.absorbAll es := by
  cases s with
  | lower o b d =>
    obtain ⟨es, ⟨_, outcome, -⟩ | ⟨_, outcome, -⟩⟩ := lowerProtocol_takes o b d c <;>
      exact ⟨es, congrArg Prod.fst outcome⟩
  | assemble profile hasTriggers services =>
    exact ⟨Gateway.assemble profile hasTriggers services, rfl⟩
  | property p => exact ⟨[.property p], rfl⟩
  | importing text => exact ⟨[.importing text], rfl⟩
  | method name => exact ⟨[.method name], rfl⟩

/-- A run goes on where another has ended. -/
theorem run_append (c : Context) (earlier later : List Step) :
    c.run (earlier ++ later) = (c.run earlier).run later := List.foldl_append

/-- A run takes up emissions, whatever its steps are. -/
theorem exists_emissions_run (c : Context) (steps : List Step) :
    ∃ es, c.run steps = c.absorbAll es := by
  induction steps generalizing c with
  | nil => exact ⟨[], rfl⟩
  | cons s steps ih =>
    obtain ⟨first, eq⟩ := exists_emissions_step c s
    obtain ⟨rest, eq'⟩ := ih (c.step s)
    exact ⟨first ++ rest, by rw [absorbAll_append, ← eq, ← eq']; rfl⟩

/-- **Contexts only grow.**  Whatever is done to any context, with passes of any bindings, with or
without faults, what it had before stays where it was; starting from an application alone, the names
of properties, the keys of imports and the methods stay distinct.  A pass that ends with a fault
adds neither resources nor methods, and one that ends well leaves no reference to a resource
dangling if there was none. -/
theorem run_grows :
    (∀ (c : Context) (earlier later : List Step),
      (c.run earlier).Grows (c.run (earlier ++ later))) ∧
    (∀ (app : App) (steps : List Step), (({ app } : Context).run steps).Distinct) ∧
    (∀ (c : Context) (o : Options) (b : Binding) (d : Document) (fault : Fault),
      (c.lower o b d).2 = .error fault →
        (c.lower o b d).1.app.resources = c.app.resources ∧
        (c.lower o b d).1.methods = c.methods) ∧
    ∀ (c : Context) (o : Options) (b : Binding) (d : Document),
      (c.lower o b d).2 = .ok () → c.app.danglingResourceRefs = [] →
        (c.lower o b d).1.app.danglingResourceRefs = [] := by
  refine ⟨fun c earlier later => ?_, fun app steps => ?_, fun c o b d fault => lower_of_fault,
    fun c o b d => danglingResourceRefs_lower⟩
  · obtain ⟨es, eq⟩ := exists_emissions_run (c.run earlier) later
    rw [run_append, eq]
    exact grows_absorbAll _ es
  · obtain ⟨es, eq⟩ := exists_emissions_run { app } steps
    rw [eq]
    exact distinct_absorbAll (distinct_start app) es

/-- A binding that is none of the five: the servers of Kafka are taken for something else, whose
modules come without versions and whose settings are the topic. -/
def relayBinding : Binding where
  profile := { Protocol.kafka.profile with name := "relay", secure := "kafka" }
  triggerRef := "example.com/relay/trigger"
  triggerImport _ := "example.com/relay/trigger"
  activityRef := some "example.com/relay/activity"
  activityImport _ := none
  triggerSettings e := (∅ : Flogo.Settings).insert "url" (.text e.url)
  handlerSettings e := (∅ : Flogo.Settings).insert "topic" (.text e.topic)
  serviceSettings e := (∅ : Flogo.Settings).insert "topic" (.text e.topic)

/-- Kafka is compiled, and then someone takes a name that a later pass is going to use. -/
def busySteps : List Step :=
  [.lower {} Protocol.kafka.binding mixedDocument, .property (.string "http2URL" "elsewhere")]

/-- The context after these steps. -/
def busyContext : Context :=
  ({ app := .new "busy" "" "1.0.0" "1.1.0" } : Context).run busySteps

/-- A context with warnings and conflicts, on which one pass fails and two others succeed, one of
them with a binding that is none of the five. -/
theorem busyContext_grows :
    (busyContext.lower {} Protocol.kafka.binding faultyDocument).2 =
      .error (.port "nine" "broker:nine") ∧
    (busyContext.lower {} Protocol.kafka.binding faultyDocument).1.app.resources =
      busyContext.app.resources ∧
    (busyContext.lower {} relayBinding mixedDocument).2 = .ok () ∧
    busyContext.app.danglingResourceRefs = [] ∧
    (busyContext.lower {} relayBinding mixedDocument).1.app.danglingResourceRefs = [] ∧
    busyContext.Distinct ∧
    busyContext.Grows (busyContext.run
      [.lower {} Protocol.kafka.binding faultyDocument, .lower {} relayBinding mixedDocument,
        .lower {} Protocol.http.binding mixedDocument]) := by
  obtain ⟨grows, distinct, failed, closed⟩ := run_grows
  have fault : (busyContext.lower {} Protocol.kafka.binding faultyDocument).2 =
      .error (.port "nine" "broker:nine") := rfl
  have ok : (busyContext.lower {} relayBinding mixedDocument).2 = .ok () := rfl
  have start : busyContext.app.danglingResourceRefs = [] := by decide +kernel
  refine ⟨fault, (failed _ _ _ _ _ fault).1, ok, start, closed _ _ _ _ ok start,
    distinct _ busySteps, ?_⟩
  exact run_append _ _ _ ▸ grows _ busySteps _

end Context

end EventGateway
