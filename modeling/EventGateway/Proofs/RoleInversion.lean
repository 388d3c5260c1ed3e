import EventGateway.Proofs.Pass
import Mathlib.Data.List.Forall2

/-!
# Playing the other side

A document describes an application from outside, and its counterpart is the application of the
document in which every channel has its two operations exchanged.  The two roles differ in nothing
else: whatever a pass emits for one role, it emits for the other role on the exchanged document, up
to the direction under which binding information is read and complained about.  So a pass on one
side is a pass on the other side with its emissions relabeled (`pass_opposite`), and relabeling
commutes with what a context takes up (`Context.absorbAll_exchange`).

## Main statements

* `compile_opposite` — compiling the exchanged document for the opposite role, as an equation.
* `compile_client_eq_server` — a document compiled for the client, and the exchanged document
  compiled for the server: the same fault, or the same application and methods, and warnings that
  differ by the operation that they name.
-/

namespace EventGateway

open AsyncApi
open Flogo (Handler Service)

/-! ## Exchanging operations -/

namespace AsyncApi

/-- The other direction. -/
def Direction.opposite : Direction → Direction
  | subscribe => publish
  | publish => subscribe

@[simp] theorem Direction.opposite_opposite (direction : Direction) :
    direction.opposite.opposite = direction := by
  cases direction <;> rfl

/-- Different directions have different opposites. -/
theorem Direction.opposite_injective : Function.Injective Direction.opposite := by
  intro a b h
  rw [← a.opposite_opposite, h, b.opposite_opposite]

/-- A channel with its operations exchanged. -/
def Channel.exchange (c : Channel) : Channel :=
  { c with subscribe := c.publish, publish := c.subscribe }

@[simp] theorem Channel.operation?_exchange (c : Channel) (direction : Direction) :
    c.exchange.operation? direction.opposite = c.operation? direction := by
  cases direction <;> rfl

/-- A document with the operations of every channel exchanged. -/
def Document.exchange (d : Document) : Document :=
  { d with channels := d.channels.map Channel.exchange }

end AsyncApi

namespace Role

/-- The other role. -/
def opposite : Role → Role
  | server => client
  | client => server

@[simp] theorem inbound_opposite (role : Role) :
    role.opposite.inbound = role.inbound.opposite := by
  cases role <;> rfl

@[simp] theorem outbound_opposite (role : Role) :
    role.opposite.outbound = role.outbound.opposite := by
  cases role <;> rfl

end Role

/-- The same options for the other role. -/
def Options.opposite (o : Options) : Options :=
  { o with role := o.role.opposite }

/-! ## What is told differently -/

/-- A warning as it is given on the other side: one about binding information is about the other
operation of the channel. -/
def Warning.exchange : Warning → Warning
  | binding channel direction defect => binding channel direction.opposite defect
  | w => w

/-- An emission on the other side. -/
def Emission.exchange : Emission → Emission
  | bindings channel direction info defects => bindings channel direction.opposite info defects
  | warning w => warning w.exchange
  | e => e

/-- A compilation on the other side. -/
def Compilation.exchange (c : Compilation) : Compilation :=
  { c with warnings := c.warnings.map Warning.exchange }

/-- The second warning is the first one as it is given on the other side.  If it is about binding
information, then the text names the other operation of the channel at its start, and the rest is
the same; any other warning is the same altogether. -/
inductive Warning.Counterparts : Warning → Warning → Prop
  | binding (channel : String) (direction : Direction) (defect : Defect) (rest : String)
      (text : (binding channel direction defect).message =
        direction.name ++ " operation of channel " ++ rest)
      (text' : (binding channel direction.opposite defect).message =
        direction.opposite.name ++ " operation of channel " ++ rest) :
      Counterparts (binding channel direction defect) (binding channel direction.opposite defect)
  | other (w : Warning) (notBinding : ∀ channel direction defect,
      w ≠ binding channel direction defect) : Counterparts w w

/-- A defect speaks of its owner at the start of its text and nowhere else. -/
theorem exists_message_eq_append (defect : Defect) :
    ∃ rest : String, ∀ owner : String, defect.message owner = owner ++ rest := by
  cases defect with
  | noObject => exact ⟨": binding info is not an object, ignoring", fun owner => rfl⟩
  | sectionNoObject part =>
    refine ⟨": " ++ part.key ++ " is not an object, ignoring", fun owner => ?_⟩
    simp only [Defect.message, String.append_assoc]
  | mistyped part key expected found =>
    refine ⟨": " ++ part.key ++ "." ++ key ++ " should be " ++ expected.describe ++
      ", found " ++ found.compact ++ "; ignoring", fun owner => ?_⟩
    simp only [Defect.message, String.append_assoc]
  | unknownKey part key =>
    refine ⟨": unknown key " ++ part.key ++ "." ++ key ++ "; ignoring", fun owner => ?_⟩
    simp only [Defect.message, String.append_assoc]

/-- A warning and its exchange are counterparts. -/
theorem counterparts_exchange (w : Warning) : w.Counterparts w.exchange := by
  cases w with
  | binding channel direction defect =>
    obtain ⟨rest, eq⟩ := exists_message_eq_append defect
    have text : ∀ direction : Direction, (Warning.binding channel direction defect).message =
        direction.name ++ " operation of channel " ++ (channel ++ rest) := by
      intro direction
      show defect.message (operationOwner channel direction) = _
      rw [eq, operationOwner]
      simp only [String.append_assoc]
    exact .binding channel direction defect (channel ++ rest) (text direction)
      (text direction.opposite)
  | unsupportedProtocol server protocol => exact .other _ (by simp)
  | undeclaredVariable server name => exact .other _ (by simp)
  | conflict c => exact .other _ (by simp)

/-! ## Relabeled traces -/

namespace Trace

variable {α β : Type} {f : Emission → Emission}

/-- The trace with every emission changed. -/
def relabel (f : Emission → Emission) (t : Trace α) : Trace α :=
  ⟨t.emitted.map f, t.result⟩

@[simp] theorem relabel_pure (a : α) : (pure a : Trace α).relabel f = pure a := rfl

@[simp] theorem relabel_ofExcept (r : Except Fault α) :
    (ofExcept r).relabel f = ofExcept r := rfl

/-- Emissions may be relabelled step by step. -/
theorem relabel_bind (t : Trace α) (g : α → Trace β) :
    (t >>= g).relabel f = t.relabel f >>= fun a => (g a).relabel f := by
  cases h : t.result with
  | error fault =>
    rw [bind_of_error h, bind_of_error (t := t.relabel f) h]
    rfl
  | ok a =>
    rw [bind_of_ok h, bind_of_ok (t := t.relabel f) h]
    exact ext List.map_append rfl

/-- Emissions may be relabelled in each step of a walk. -/
theorem relabel_mapM (l : List α) (g : α → Trace β) :
    (l.mapM g).relabel f = l.mapM fun a => (g a).relabel f := by
  induction l with
  | nil => rfl
  | cons a l ih => simp only [List.mapM_cons, relabel_bind, ih, relabel_pure]

/-- Nothing changes if no emission does. -/
theorem relabel_eq_self {t : Trace α} (h : ∀ e ∈ t.emitted, f e = e) : t.relabel f = t := by
  apply ext
  · show t.emitted.map f = t.emitted
    rw [List.map_congr_left h, List.map_id']
  · rfl

end Trace

/-! ## Passes -/

/-- Connections are the same on both sides. -/
theorem exchange_of_connects {label : String} {e : Emission} (h : e.Connects label) :
    e.exchange = e := by
  cases e with
  | warning w =>
    obtain ⟨server, name, rfl⟩ := h
    rfl
  | property q => rfl
  | _ => exact h.elim

/-- Triggers, microgateways and imports are the same on both sides. -/
theorem exchange_of_isPart {e : Emission} (h : e.isPart = true) : e.exchange = e := by
  cases e <;> first | rfl | cases h

section Passes

variable (role : Role) (p : Protocol) (base : Option String) (e : Endpoint) (name : String)
  (c : Channel)

/-- The binding information of an operation is the same in both directions. -/
theorem readBindings_opposite (direction : Direction) (o : Operation) :
    readBindings name direction.opposite o =
      (readBindings name direction o).relabel Emission.exchange := rfl

/-- The handler of the other role comes from the exchanged channel. -/
theorem compileHandler_opposite :
    compileHandler role.opposite p e name c.exchange =
      (compileHandler role p e name c).relabel Emission.exchange := by
  unfold compileHandler
  rw [Role.inbound_opposite, Channel.operation?_exchange]
  cases c.operation? role.inbound with
  | none => rfl
  | some o =>
    simp only [Trace.relabel_bind, Trace.relabel_pure, readBindings_opposite]

/-- The service of the other role comes from the exchanged channel. -/
theorem compileService_opposite :
    compileService role.opposite p e name c.exchange =
      (compileService role p e name c).relabel Emission.exchange := by
  unfold compileService
  rw [Role.outbound_opposite, Channel.operation?_exchange]
  cases c.operation? role.outbound with
  | none => rfl
  | some o =>
    cases p.activity with
    | none => rfl
    | some activity =>
      simp only [Trace.relabel_bind, Trace.relabel_pure, readBindings_opposite]

/-- The parts of the other role come from the exchanged channel. -/
theorem compileChannel_opposite :
    compileChannel role.opposite p base e name c.exchange =
      (compileChannel role p base e name c).relabel Emission.exchange := by
  unfold compileChannel
  simp only [Trace.relabel_bind, Trace.relabel_ofExcept, Trace.relabel_pure,
    compileHandler_opposite, compileService_opposite]
  rfl

end Passes

section Compilations

variable {d : Document} {o : Options} {p : Protocol}

/-- **A server on the other side.**  Its connection is the same, and so is what its channels lead
to, up to the directions of the binding information that is read on the way. -/
theorem compileServer_opposite (index : Nat) (name : String) (s : Server) :
    compileServer o.opposite p d.exchange index name s =
      (compileServer o p d index name s).relabel Emission.exchange := by
  have connected : (connect p d index name s).relabel Emission.exchange =
      connect p d index name s := by
    apply Trace.relabel_eq_self
    intro e mem
    exact exchange_of_connects (connect_emits p d index name s e mem)
  have parts : ∀ e (handlers : List Handler) (services : List Service),
      (Trace.emitAll (triggerEmissions o p index e handlers ++
          activityEmissions o p e services)).relabel Emission.exchange =
        Trace.emitAll (triggerEmissions o p index e handlers ++
          activityEmissions o p e services) := by
    intro e handlers services
    apply Trace.relabel_eq_self
    intro em mem
    exact exchange_of_isPart (isPart_of_mem_serverEmissions mem)
  -- All but the channels is its own counterpart, and both sides walk the channels in one order.
  unfold compileServer
  rw [Trace.relabel_bind, connected]
  show connect p d index name s >>= _ = _
  congr 1
  funext e
  rw [Trace.relabel_bind, Trace.relabel_mapM]
  congr 1
  · show (d.channels.entries.map fun x => (x.1, x.2.exchange)).mapM _ = _
    rw [List.mapM_map]
    apply Trace.mapM_congr
    intro x _
    exact compileChannel_opposite o.role p s.baseChannel e x.1 x.2
  · funext channels
    rw [Trace.relabel_bind, parts]
    rfl

/-- **A pass on the other side** is the pass with its emissions relabeled. -/
theorem pass_opposite :
    pass o.opposite p d.exchange = (pass o p d).relabel Emission.exchange := by
  unfold pass
  rw [Trace.relabel_bind, Trace.relabel_mapM]
  congr 1
  · apply Trace.mapM_congr
    intro x _
    exact compileServer_opposite x.2 x.1.1 x.1.2
  · funext parts
    refine (Trace.relabel_eq_self fun e mem => ?_).symm
    exact exchange_of_isPart (isPart_of_mem_assemble mem)

end Compilations

/-! ## The context on the other side -/

namespace Context

/-- A context on the other side. -/
def exchange (c : Context) : Context :=
  { c with
    warnings := c.warnings.map Warning.exchange
    decoded := c.decoded.map fun x => ((x.1.1, x.1.2.opposite), x.2) }

/-- What an operation has been given, its counterpart on the other side has been given. -/
theorem bindings?_exchange (c : Context) (channel : String) (direction : Direction) :
    c.exchange.bindings? channel direction.opposite = c.bindings? channel direction := by
  show (c.decoded.map fun x => ((x.1.1, x.1.2.opposite), x.2)).lookup _ = c.decoded.lookup _
  induction c.decoded with
  | nil => rfl
  | cons x rest ih =>
    obtain ⟨⟨channel', direction'⟩, info⟩ := x
    rw [List.map_cons, List.lookup_cons, List.lookup_cons, ih]
    have same : ((channel, direction.opposite) == (channel', direction'.opposite)) =
        ((channel, direction) == (channel', direction')) := by
      rw [Bool.eq_iff_iff, beq_iff_eq, beq_iff_eq, Prod.mk.injEq, Prod.mk.injEq,
        Direction.opposite_injective.eq_iff]
    simp only [same]

/-- **Taking up an emission** is the same thing on both sides. -/
theorem absorb_exchange (c : Context) (e : Emission) :
    c.exchange.absorb e.exchange = (c.absorb e).exchange := by
  cases e with
  | warning w => simp [absorb, Emission.exchange, exchange]
  | bindings channel direction info defects =>
    show (if (c.exchange.bindings? channel direction.opposite).isSome then _ else _) =
      Context.exchange (if (c.bindings? channel direction).isSome then _ else _)
    rw [bindings?_exchange]
    by_cases known : (c.bindings? channel direction).isSome = true
    · rw [if_pos known, if_pos known]
    · rw [if_neg known, if_neg known]
      simp [exchange, Warning.exchange]
  | _ => rfl

/-- Exchanged emissions are taken up into an exchanged context. -/
theorem absorbAll_exchange (c : Context) (es : List Emission) :
    c.exchange.absorbAll (es.map Emission.exchange) = (c.absorbAll es).exchange := by
  induction es generalizing c with
  | nil => rfl
  | cons e es ih => rw [List.map_cons, absorbAll_cons, absorbAll_cons, absorb_exchange, ih]

/-- A compilation is exchanged by exchanging its context. -/
theorem finish_exchange (c : Context) : c.exchange.finish = c.finish.exchange := by
  simp [finish, exchange, Compilation.exchange, Warning.exchange]

end Context

/-- Warnings about servers that are not supported do not name operations. -/
theorem startContext_opposite (d : Document) (o : Options) :
    startContext d.exchange o.opposite = (startContext d o).exchange := by
  have same : (unsupportedServers d).map Warning.exchange = unsupportedServers d := by
    have each : ∀ w ∈ unsupportedServers d, w.exchange = w := by
      intro w mem
      obtain ⟨server, protocol, rfl⟩ := eq_of_mem_unsupportedServers mem
      rfl
    rw [List.map_congr_left each, List.map_id']
  simp only [startContext, Context.exchange, same]
  rfl

/-! ## Compilations -/

/-- **Exchanging the operations is taking the other role.** -/
theorem compile_opposite (d : Document) (o : Options) :
    compile d.exchange o.opposite = (compile d o).map Compilation.exchange := by
  have walk : passes o.opposite d.exchange = (passes o d).relabel Emission.exchange := by
    unfold passes
    rw [Trace.relabel_mapM]
    apply Trace.mapM_congr
    intro p _
    exact pass_opposite
  rw [compile_eq, compile_eq, walk, startContext_opposite]
  show ((passes o d).result.map fun _ => (Context.absorbAll _ (List.map _ _)).finish) = _
  rw [Context.absorbAll_exchange, Context.finish_exchange]
  cases (passes o d).result <;> rfl

/-- **The client of a document is the server of the exchanged document.**  Both compilations end
with the same fault, or both succeed with the same application and the same methods.  Their warnings
are equal in number and agree one by one, except that those about the binding information of an
operation name the other operation of the channel at their start. -/
theorem compile_client_eq_server (d : Document) (o : Options) :
    (∃ fault, compile d { o with role := .client } = .error fault ∧
        compile d.exchange { o with role := .server } = .error fault) ∨
      ∃ c c', compile d { o with role := .client } = .ok c ∧
        compile d.exchange { o with role := .server } = .ok c' ∧
        c'.app = c.app ∧ c'.methods = c.methods ∧
        List.Forall₂ Warning.Counterparts c.warnings c'.warnings := by
  have sides := compile_opposite d { o with role := .client }
  cases h : compile d { o with role := .client } with
  | error fault =>
    rw [h] at sides
    exact .inl ⟨fault, rfl, sides⟩
  | ok c =>
    rw [h] at sides
    refine .inr ⟨c, c.exchange, rfl, sides, rfl, rfl, ?_⟩
    show List.Forall₂ Warning.Counterparts c.warnings (c.warnings.map Warning.exchange)
    rw [List.forall₂_map_right_iff, List.forall₂_same]
    intro w _
    exact counterparts_exchange w

end EventGateway
