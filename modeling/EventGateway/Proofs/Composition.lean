import EventGateway.Proofs.Contribution

/-!
# Compilations are put together from their protocols

A document can be restricted to a protocol: servers that do not speak it are replaced by servers
that nobody speaks, in the same places and under the same names.  The compilations of the five
restrictions, one after the other, make up the compilation of the document.  The passes share one
context all the same, so what has to be shown is that no pass takes away from another: names of
properties and methods start with the name of the protocol, and imports are dropped by a rule that
does not care whether it is applied early.

## Main statements

* `pass_of_isRestriction` — a restriction runs the pass of its protocol and no other.
* `compile_compositional` — faults, triggers, resources, properties, methods and imports of a
  compilation, from those of the restrictions.
-/

namespace EventGateway

open AsyncApi

/-! ## Restrictions -/

/-- The second server has the name of the first one.  It is the first one if that speaks the
protocol, and has an identifier that is not supported otherwise. -/
def KeepsFor (p : Protocol) (x x' : String × Server) : Prop :=
  x'.1 = x.1 ∧
    if p.isNamedBy x.2.protocol then x'.2 = x.2 else Protocol.ofIdentifier? x'.2.protocol = none

/-- The second document is the first one restricted to a protocol: in the place of every server that
does not speak the protocol, and under its name, stands one whose identifier is not supported. -/
structure AsyncApi.Document.IsRestriction (p : Protocol) (d d' : Document) : Prop where
  asyncapi : d'.asyncapi = d.asyncapi
  id : d'.id = d.id
  info : d'.info = d.info
  channels : d'.channels = d.channels
  components : d'.components = d.components
  servers : List.Forall₂ (KeepsFor p) d.servers.servers d'.servers.servers

/-- Changes the entries and keeps names and places. -/
def AsyncApi.Layout.mapEntries {α β : Type} (f : α → β) : Layout α → Layout β
  | list entries => .list (entries.map f)
  | map entries => .map (entries.map f)

/-- The restriction of a document to a protocol that only changes identifiers. -/
def AsyncApi.Document.restrict (d : Document) (p : Protocol) (unsupported : String) : Document :=
  { d with
    servers := d.servers.mapEntries fun s =>
      if p.isNamedBy s.protocol then s else { s with protocol := unsupported } }

/-- Items that keep their names are named as before. -/
theorem nameByPosition_map {α : Type} {name? : α → Option String} {f : α → α}
    (h : ∀ a, name? (f a) = name? a) (position : Nat) (as : List α) :
    nameByPosition name? position (as.map f) =
      (nameByPosition name? position as).map fun x => (x.1, f x.2) := by
  induction as generalizing position with
  | nil => rfl
  | cons a as ih => simp only [List.map_cons, nameByPosition, ih, h]

/-- Servers that keep their names are listed as before. -/
theorem servers_map {f : Server → Server} (h : ∀ s, (f s).name = s.name) (l : Layout Server) :
    (l.mapEntries f).servers = l.servers.map fun x => (x.1, f x.2) := by
  cases l with
  | list entries => exact nameByPosition_map h 0 entries
  | map entries => rfl

/-- Every document can be restricted to every protocol. -/
theorem isRestriction_restrict (d : Document) (p : Protocol) {unsupported : String}
    (h : Protocol.ofIdentifier? unsupported = none) :
    Document.IsRestriction p d (d.restrict p unsupported) where
  asyncapi := rfl
  id := rfl
  info := rfl
  channels := rfl
  components := rfl
  servers := by
    have name : ∀ s : Server, (if p.isNamedBy s.protocol then s
        else { s with protocol := unsupported }).name = s.name := by
      intro s
      split <;> rfl
    rw [Document.restrict, servers_map name, List.forall₂_map_right_iff, List.forall₂_same]
    intro x _
    by_cases named : p.isNamedBy x.2.protocol <;> simp [KeepsFor, named, h]

section Restriction

variable {p : Protocol} {d d' : Document}

/-- What stands for a server speaks no protocol but the one it is kept for. -/
theorem KeepsFor.eq_of_isNamedBy {x x' : String × Server} (h : KeepsFor p x x') {q : Protocol}
    (named : q.isNamedBy x'.2.protocol = true) : q = p ∧ x' = x := by
  obtain ⟨name, same⟩ := h
  by_cases named' : p.isNamedBy x.2.protocol = true
  · rw [if_pos named'] at same
    exact ⟨Protocol.eq_of_isNamedBy named (same ▸ named'), Prod.ext name same⟩
  · rw [if_neg named', Protocol.ofIdentifier?_eq_none_iff] at same
    rw [same q] at named
    cases named

/-- A server that speaks the protocol is kept. -/
theorem KeepsFor.eq_of_named {x x' : String × Server} (h : KeepsFor p x x')
    (named : p.isNamedBy x.2.protocol = true) : x' = x := by
  obtain ⟨name, same⟩ := h
  rw [if_pos named] at same
  exact Prod.ext name same

/-- Of servers kept for a protocol, none speaks another one. -/
theorem isNamedBy_of_forall₂_keepsFor {xs xs' : List (String × Server)}
    (keeps : List.Forall₂ (KeepsFor p) xs xs') {q : Protocol} (ne : q ≠ p) :
    ∀ x' ∈ xs', q.isNamedBy x'.2.protocol = false := by
  induction keeps with
  | nil => simp
  | cons same _ ih =>
    refine List.forall_mem_cons.2 ⟨Bool.eq_false_iff.2 fun named => ?_, ih⟩
    exact ne (same.eq_of_isNamedBy named).1

/-- Two lists that agree wherever one of them passes a test have the same items that pass it, in the
same places. -/
theorem filter_zipIdx_congr {α : Type} (test : α → Bool) {xs xs' : List α}
    (agree : List.Forall₂ (fun x x' => test x = true ∨ test x' = true → x' = x) xs xs')
    (position : Nat) :
    (xs'.zipIdx position).filter (fun x => test x.1) =
      (xs.zipIdx position).filter fun x => test x.1 := by
  induction agree generalizing position with
  | nil => rfl
  | @cons x x' xs xs' same _ ih =>
    rw [List.zipIdx_cons, List.zipIdx_cons, List.filter_cons, List.filter_cons, ih]
    by_cases passes : test x = true ∨ test x' = true
    · rw [same passes]
    · obtain ⟨fails, fails'⟩ := not_or.1 passes
      rw [if_neg fails, if_neg fails']

/-- The servers of a protocol keep the positions that they have among all servers. -/
theorem protocolServers_eq (p : Protocol) (d : Document) :
    protocolServers p d = d.servers.servers.zipIdx.filter fun x => p.isNamedBy x.1.2.protocol := rfl

/-- A restriction has the servers of its protocol in their places, and no others. -/
theorem protocolServers_of_isRestriction (h : Document.IsRestriction p d d') (q : Protocol) :
    protocolServers q d' = if q = p then protocolServers p d else [] := by
  by_cases eq : q = p
  · subst eq
    rw [if_pos rfl, protocolServers_eq, protocolServers_eq]
    refine filter_zipIdx_congr (fun x => q.isNamedBy x.2.protocol)
      (h.servers.imp fun x x' same => ?_) 0
    rintro (named | named)
    · exact same.eq_of_named named
    · exact (same.eq_of_isNamedBy named).2
  · rw [if_neg eq, protocolServers_eq]
    refine List.filter_eq_nil_iff.2 fun x mem => ?_
    rw [isNamedBy_of_forall₂_keepsFor h.servers eq x.1 (List.fst_mem_of_mem_zipIdx mem)]
    exact Bool.false_ne_true

/-- A pass sees the servers of its protocol, the channels and the security schemes of a document. -/
theorem pass_congr (servers : protocolServers p d' = protocolServers p d)
    (channels : d'.channels = d.channels) (components : d'.components = d.components)
    (o : Options) : pass o p d' = pass o p d := by
  have server : ∀ index name s, compileServer o p d' index name s =
      compileServer o p d index name s := by
    intro index name s
    have user : d'.usesUserPassword s = d.usesUserPassword s := by
      simp only [Document.usesUserPassword, Document.schemeType?, components]
    simp only [compileServer, connect_eq, user, channels]
  simp only [pass, servers, server]

/-- A pass without servers does nothing. -/
theorem pass_of_protocolServers_eq_nil (h : protocolServers p d = []) (o : Options) :
    pass o p d = pure () := by
  rw [pass, h]
  rfl

/-- **A restriction runs the pass of its protocol and no other.** -/
theorem pass_of_isRestriction (h : Document.IsRestriction p d d') (o : Options) (q : Protocol) :
    pass o q d' = if q = p then pass o p d else pure () := by
  have servers := protocolServers_of_isRestriction h q
  by_cases eq : q = p
  · subst eq
    rw [if_pos rfl] at servers ⊢
    exact pass_congr servers h.channels h.components o
  · rw [if_neg eq] at servers ⊢
    exact pass_of_protocolServers_eq_nil servers o

end Restriction

/-! ## Faults -/

/-- The fault with which a computation ends. -/
def fault? {α : Type} : Except Fault α → Option Fault
  | .error fault => some fault
  | .ok _ => none

/-- Changing a result leaves the fault. -/
theorem fault?_map {α β : Type} (f : α → β) (r : Except Fault α) :
    fault? (r.map f) = fault? r := by
  cases r <;> rfl

/-- There is no fault if there is a result. -/
theorem fault?_eq_none_iff {α : Type} {r : Except Fault α} :
    fault? r = none ↔ ∃ a, r = .ok a := by
  cases r with
  | error fault => simp [fault?]
  | ok a => simp [fault?]

/-- A walk ends with the first fault of its steps. -/
theorem fault?_mapM {α β : Type} (l : List α) (f : α → Trace β) :
    fault? (l.mapM f).result = l.findSome? fun a => fault? (f a).result := by
  induction l with
  | nil => rfl
  | cons a l ih =>
    rw [List.mapM_cons, List.findSome?_cons]
    cases h : (f a).result with
    | error fault =>
      rw [Trace.bind_of_error h]
      rfl
    | ok b =>
      rw [Trace.bind_of_ok h, Trace.bind_pure_eq]
      exact (fault?_map _ _).trans ih

/-- A compilation ends with the first fault of its passes. -/
theorem fault?_compile (d : Document) (o : Options) :
    fault? (compile d o) = Protocol.all.findSome? fun p => fault? (pass o p d).result := by
  rw [compile_eq, fault?_map, passes, fault?_mapM]

/-! ## Putting restrictions together -/

section Parts

variable {p : Protocol}

/-- Where only one protocol has something, that is all there is. -/
theorem flatMap_all_of_ne {α : Type} {f : Protocol → List α} (h : ∀ q, q ≠ p → f q = []) :
    Protocol.all.flatMap f = f p := by
  cases p <;> simp [Protocol.all, h]

/-- A search through the protocols finds what only one of them has. -/
theorem findSome?_all_of_ne {α : Type} {f : Protocol → Option α} (h : ∀ q, q ≠ p → f q = none) :
    Protocol.all.findSome? f = f p := by
  cases p <;> simp [Protocol.all, List.findSome?_cons, h] <;> split <;> simp_all

end Parts

section Restrictions

variable {d : Document} {o : Options} {p : Protocol} {d' : Document}

/-- A document with the servers of one protocol fails as the pass of this protocol does. -/
theorem fault?_compile_of_isRestriction (h : Document.IsRestriction p d d') :
    fault? (compile d' o) = fault? (pass o p d).result := by
  have others : ∀ q, q ≠ p → fault? (pass o q d').result = none := by
    intro q ne
    rw [pass_of_isRestriction h, if_neg ne]
    rfl
  rw [fault?_compile, findSome?_all_of_ne others, pass_of_isRestriction h, if_pos rfl]

/-- The items of a restriction are those of the pass of its protocol. -/
theorem items_of_isRestriction (h : Document.IsRestriction p d d') {α : Type}
    (item? : Emission → Option α) :
    (Protocol.all.flatMap fun q => (pass o q d').items item?) = (pass o p d).items item? := by
  rw [flatMap_all_of_ne (p := p), pass_of_isRestriction h, if_pos rfl]
  intro q ne
  rw [pass_of_isRestriction h, if_neg ne]
  rfl

end Restrictions

section Apart

variable {d : Document} {o : Options}

/-- The name of a property of a pass starts with the name of the protocol. -/
theorem name_of_mem_properties {p : Protocol} (h : (pass o p d).result = .ok ())
    {q : Flogo.Property} (mem : q ∈ (pass o p d).items Emission.property?) :
    ∃ rest, q.name = "" ++ (p.name ++ rest) := by
  rw [properties_of_pass h] at mem
  obtain ⟨x, -, mem⟩ := List.mem_flatMap.1 mem
  obtain ⟨e, mem, eq⟩ := List.mem_filterMap.1 mem
  have connects := connect_emits p d x.2 x.1.1 x.1.2 e mem
  cases e with
  | property q' =>
    obtain rfl := Option.some.inj eq
    obtain ⟨rest, name⟩ := connects
    refine ⟨toString x.2 ++ rest, ?_⟩
    rw [name, serverLabel, String.append_assoc, String.empty_append]
  | _ => cases eq

/-- Passes of different protocols do not compete for property names. -/
theorem properties_apart (h : ∀ p, (pass o p d).result = .ok ()) :
    Protocol.all.Pairwise fun p p' =>
      ∀ q ∈ (pass o p d).items Emission.property?,
        ∀ q' ∈ (pass o p' d).items Emission.property?, q.name ≠ q'.name :=
  Protocol.apart_of_start fun p _ mem => name_of_mem_properties (h p) mem

/-- Passes of different protocols do not compete for methods. -/
theorem methods_apart (h : ∀ p, (pass o p d).result = .ok ()) :
    Protocol.all.Pairwise fun p p' =>
      ∀ m ∈ (pass o p d).items Emission.method?,
        ∀ m' ∈ (pass o p' d).items Emission.method?, id m ≠ id m' :=
  Protocol.apart_of_start fun p _ mem => method_eq_of_pass (h p) mem

end Apart

/-- **Compilation is compositional over protocols.**  A compilation ends with the fault of the first
restriction that ends with one; if none does, it consists of what they consist of, in a row, except
that imports whose key has come before are left out. -/
theorem compile_compositional {d : Document} {o : Options} {part : Protocol → Document}
    (parts : ∀ p, Document.IsRestriction p d (part p)) :
    (fault? (compile d o) = Protocol.all.findSome? fun p => fault? (compile (part p) o)) ∧
    ∀ c, compile d o = .ok c →
      ∃ cs : Protocol → Compilation, (∀ p, compile (part p) o = .ok (cs p)) ∧
        (c.app.triggers = Protocol.all.flatMap fun p => (cs p).app.triggers) ∧
        (c.app.resources = Protocol.all.flatMap fun p => (cs p).app.resources) ∧
        (c.app.properties = Protocol.all.flatMap fun p => (cs p).app.properties) ∧
        (c.methods = Protocol.all.flatMap fun p => (cs p).methods) ∧
        c.app.imports =
          firstOfEach Import.key [] (Protocol.all.flatMap fun p => (cs p).app.imports) := by
  refine ⟨?_, fun c hc => ?_⟩
  · simp only [fault?_compile_of_isRestriction (parts _), fault?_compile d]
  · obtain ⟨all, -⟩ := compile_eq_ok_iff.1 hc
    have succeeds : ∀ p, ∃ c', compile (part p) o = .ok c' := by
      intro p
      rw [← fault?_eq_none_iff, fault?_compile_of_isRestriction (parts p), all p]
      rfl
    choose cs hcs using succeeds
    have whole := collects_of_compile hc
    have each := fun p => collects_of_compile (hcs p)
    refine ⟨cs, hcs, ?_, ?_, ?_, ?_, ?_⟩
    · simp only [whole.triggers, (each _).triggers, items_of_isRestriction (parts _)]
    · simp only [whole.resources, (each _).resources, items_of_isRestriction (parts _)]
    · simp only [whole.properties, (each _).properties, items_of_isRestriction (parts _)]
      exact firstOfEach_flatMap_of_disjoint _ (properties_apart all)
    · simp only [whole.methods, (each _).methods, items_of_isRestriction (parts _)]
      exact firstOfEach_flatMap_of_disjoint _ (methods_apart all)
    -- Imports are shared between protocols, so here it counts that early selection is harmless.
    · simp only [whole.imports, (each _).imports, items_of_isRestriction (parts _)]
      exact (firstOfEach_flatMap_firstOfEach _ _ _ _).symm

/-! ## A document with several protocols -/

/-- A server without variables. -/
def plainServer (name url protocol : String) (extensions : Dict Value := ∅) : Server where
  name := name
  url := url
  protocol := protocol
  protocolVersion := none
  description := none
  urlVariables := ∅
  security := []
  baseChannel := none
  extensions := extensions

/-- A channel of which messages are received and to which messages are sent. -/
def plainChannel : Channel where
  description := none
  parameters := .list []
  subscribe := some ⟨none, none, none, none, none⟩
  publish := some ⟨none, none, none, none, none⟩

/-- A document with servers of two protocols, and between them one that is not supported. -/
def mixedDocument : Document where
  asyncapi := "2.0.0"
  id := none
  info := { title := "mixed", version := "1.0.0" }
  servers := .list [plainServer "broker" "broker:9092" "kafka", plainServer "queue" "queue" "amqp",
    plainServer "web" "web.example" "http"]
  channels := Dict.ofList [("light", plainChannel), ("/door", plainChannel)]
  components := none

theorem compile_mixedDocument :
    ∃ c, compile mixedDocument {} = .ok c ∧
      c.app.triggers.map Flogo.Trigger.id = ["kafka0", "kafkaPublish", "http2", "httpPublish"] ∧
      c.methods = ["kafkaMethod", "httpMethod"] := by
  have outcome : (compile mixedDocument {}).toOption.map
      (fun c => (c.app.triggers.map Flogo.Trigger.id, c.methods)) =
      some (["kafka0", "kafkaPublish", "http2", "httpPublish"], ["kafkaMethod", "httpMethod"]) := by
    decide +kernel
  obtain ⟨c, hc, outcome⟩ := Trace.exists_ok_of_toOption outcome
  obtain ⟨ids, methods⟩ := Prod.mk.inj outcome
  exact ⟨c, hc, ids, methods⟩

theorem compile_mixedDocument_compositional :
    (∀ p, Document.IsRestriction p mixedDocument (mixedDocument.restrict p "amqp")) ∧
    (fault? (compile mixedDocument {}) =
      Protocol.all.findSome? fun p => fault? (compile (mixedDocument.restrict p "amqp") {})) ∧
    ∃ (c : Compilation) (cs : Protocol → Compilation), compile mixedDocument {} = .ok c ∧
      (∀ p, compile (mixedDocument.restrict p "amqp") {} = .ok (cs p)) ∧
      c.app.triggers.map Flogo.Trigger.id = ["kafka0", "kafkaPublish", "http2", "httpPublish"] ∧
      (c.app.triggers = Protocol.all.flatMap fun p => (cs p).app.triggers) ∧
      c.app.imports =
        firstOfEach Import.key [] (Protocol.all.flatMap fun p => (cs p).app.imports) := by
  have parts : ∀ p, Document.IsRestriction p mixedDocument (mixedDocument.restrict p "amqp") :=
    fun p => isRestriction_restrict mixedDocument p (by decide)
  obtain ⟨faults, pieces⟩ := compile_compositional (o := {}) parts
  obtain ⟨c, hc, ids, -⟩ := compile_mixedDocument
  obtain ⟨cs, hcs, triggers, -, -, -, imports⟩ := pieces c hc
  exact ⟨parts, faults, c, cs, hc, hcs, ids, triggers, imports⟩

end EventGateway
