import EventGateway.Proofs.Composition
import EventGateway.Proofs.ImportKey
import Mathlib.Data.List.TakeWhile

/-!
# Version pins

A server may ask for a version of the modules that speak its protocol, and the catalog names one
otherwise.  All passes register their imports in one registry, where the first import of a key
counts, so a version reaches the application only if nothing has been registered under the key of
its module before.  For activity modules this is always so.  The trigger module of one protocol is
the one that endpoints for sending are built on: they import it without a version, so an earlier
protocol that sends takes its place (`overtaken`), and in no other case is a version lost.

## Main statements

* `find?_passImports_trigger`, `find?_passImports_activity` — what a pass registers first under the
  key of a module.
* `pins_of_compile` — the import of a module that a compilation ends up with.
-/

namespace EventGateway

open AsyncApi
open Flogo (Service Trigger)

/-! ## Versions that servers ask for -/

/-- The version that a server asks for by an extension, or else one that is given. -/
def effectiveVersion (s : Server) (extension : String) (given : Option String) : Option String :=
  ((s.extensions.find? extension).bind Value.text?).or given

/-- An extension that can be read is what its reader finds, if null is nothing to the reader. -/
theorem eq_bind_of_readExtension {α : Type} {owner key : String} {extensions : Dict Value}
    {expected : Kind} {read : Value → Option α} {r : Option α} (null : read .null = none)
    (h : readExtension owner extensions key expected read = .ok r) :
    r = (extensions.find? key).bind read := by
  unfold readExtension at h
  cases found : extensions.find? key with
  | none =>
    rw [found] at h
    exact (Except.ok.inj h).symm
  | some value =>
    rw [Option.bind_some]
    simp only [found] at h
    by_cases isNull : value.isNull = true
    · obtain ⟨json, canonical⟩ := value
      cases json with
      | null =>
        rw [if_pos isNull] at h
        exact (Except.ok.inj h).symm.trans null.symm
      | _ => cases isNull
    · rw [if_neg isNull] at h
      cases kept : read value with
      | none =>
        rw [kept] at h
        cases h
      | some a =>
        rw [kept] at h
        exact (Except.ok.inj h).symm

/-- The versions among the extensions of a server. -/
theorem versions_of_read {owner : String} {extensions : Dict Value} {connection : Bool}
    {x : ServerExtensions} (h : ServerExtensions.read owner extensions connection = .ok x) :
    x.triggerVersion = (extensions.find? "x-trigger-version").bind Value.text? ∧
      x.activityVersion = (extensions.find? "x-activity-version").bind Value.text? := by
  obtain ⟨triggerVersion, trigger, h⟩ := Trace.except_bind_eq_ok.1 h
  obtain ⟨activityVersion, activity, h⟩ := Trace.except_bind_eq_ok.1 h
  have versions : x.triggerVersion = triggerVersion ∧ x.activityVersion = activityVersion := by
    cases connection with
    | false =>
      obtain rfl := Except.ok.inj h
      exact ⟨rfl, rfl⟩
    | true =>
      obtain ⟨store, -, h⟩ := Trace.except_bind_eq_ok.1 h
      obtain ⟨cleanSession, -, h⟩ := Trace.except_bind_eq_ok.1 h
      obtain ⟨keepAlive, -, h⟩ := Trace.except_bind_eq_ok.1 h
      obtain ⟨autoReconnect, -, h⟩ := Trace.except_bind_eq_ok.1 h
      obtain ⟨skipVerify, -, h⟩ := Trace.except_bind_eq_ok.1 h
      obtain ⟨useSystemCert, -, h⟩ := Trace.except_bind_eq_ok.1 h
      obtain rfl := Except.ok.inj h
      exact ⟨rfl, rfl⟩
  exact ⟨versions.1.trans (eq_bind_of_readExtension rfl trigger),
    versions.2.trans (eq_bind_of_readExtension rfl activity)⟩

section Servers

variable {d : Document} {o : Options} {p : Protocol} {x : PlacedServer}

/-- The extensions of an endpoint are those of its server. -/
theorem read_endpointOf (h : (pass o p d).result = .ok ()) (mem : x ∈ protocolServers p d) :
    ServerExtensions.read ("server " ++ x.1.1) x.1.2.extensions p.profile.connectionExtensions =
      .ok (endpointOf p d x).extensions := by
  obtain ⟨extensions, read, connected⟩ := Trace.result_bind_eq_ok.1 (servers_of_pass h mem).1
  obtain ⟨-, -, connected⟩ := Trace.result_bind_eq_ok.1 connected
  obtain ⟨url, -, connected⟩ := Trace.result_bind_eq_ok.1 connected
  obtain ⟨port, -, connected⟩ := Trace.result_bind_eq_ok.1 connected
  rw [← Except.ok.inj connected]
  exact read

/-- The endpoint of a server has the versions that the server asks for. -/
theorem versions_endpointOf (h : (pass o p d).result = .ok ()) (mem : x ∈ protocolServers p d)
    (given : Option String) :
    (endpointOf p d x).extensions.triggerVersion.or given =
        effectiveVersion x.1.2 "x-trigger-version" given ∧
      (endpointOf p d x).extensions.activityVersion.or given =
        effectiveVersion x.1.2 "x-activity-version" given := by
  obtain ⟨trigger, activity⟩ := versions_of_read (read_endpointOf h mem)
  rw [trigger, activity]
  exact ⟨rfl, rfl⟩

end Servers

/-! ## Modules are told apart by their keys -/

/-- The modules of the engine that speak a protocol. -/
def Protocol.modules (p : Protocol) : List ModulePath :=
  p.trigger :: p.activity.toList

/-- The modules of a protocol are plain. -/
theorem plain_of_mem_modules {p : Protocol} {m : ModulePath} (mem : m ∈ p.modules) : m.Plain := by
  have all : ∀ p ∈ Protocol.all, ∀ m ∈ p.modules, m.Plain := by decide +kernel
  exact all p p.mem_all m mem

/-- No module of a protocol lies below one of another protocol. -/
theorem not_module_isPrefix {p q : Protocol} (ne : q ≠ p) {m m' : ModulePath}
    (mem : m ∈ p.modules) (mem' : m' ∈ q.modules) :
    ¬ m'.module.toList <+: m.reference.toList := by
  have all : ∀ p ∈ Protocol.all, ∀ q ∈ Protocol.all, q ≠ p → ∀ m ∈ p.modules, ∀ m' ∈ q.modules,
      ¬ m'.module.toList <+: m.reference.toList := by decide +kernel
  exact all p p.mem_all q q.mem_all ne m mem m' mem'

/-- An import of a module of one protocol never has the key of a module of another one. -/
theorem key_ne_reference {p q : Protocol} (ne : q ≠ p) {m m' : ModulePath} (mem : m ∈ p.modules)
    (mem' : m' ∈ q.modules) (version : Option String) :
    Import.key (m'.importAt version) ≠ m.reference := by
  intro eq
  have start := ModulePath.module_isPrefix_key (plain_of_mem_modules mem') version
  rw [eq] at start
  exact not_module_isPrefix ne mem mem' start

theorem trigger_mem_modules (p : Protocol) : p.trigger ∈ p.modules :=
  List.mem_cons_self

theorem activity_mem_modules {p : Protocol} {activity : ModulePath}
    (h : p.activity = some activity) : activity ∈ p.modules :=
  List.mem_cons_of_mem _ (Option.mem_toList.2 h)

/-- Trigger and activity of a protocol are in different modules, or in different places of one. -/
theorem key_trigger_ne_activity {p : Protocol} {activity : ModulePath}
    (h : p.activity = some activity) (version : Option String) :
    Import.key (p.trigger.importAt version) ≠ activity.reference := by
  have all : ∀ p ∈ Protocol.all, ∀ activity ∈ p.activity,
      ¬ p.trigger.module.toList <+: activity.reference.toList ∨
      ∃ sub ∈ p.trigger.sub, ¬ sub.toList <:+ activity.reference.toList := by
    decide +kernel
  have plain := plain_of_mem_modules (trigger_mem_modules p)
  intro eq
  rcases all p p.mem_all activity h with apart | ⟨sub, path, apart⟩
  · have start := ModulePath.module_isPrefix_key plain version
    rw [eq] at start
    exact apart start
  · have stop := ModulePath.sub_isSuffix_key plain path version
    rw [eq] at stop
    exact apart stop

/-! ## What a pass registers first -/

/-- The imports of a pass, in the order in which they are registered. -/
def passImports (d : Document) (o : Options) (p : Protocol) : List String :=
  (protocolServers p d).flatMap (placedImports d o p) ++ gatewayImports d o.role p

section Passes

variable {d : Document} {o : Options} {p q : Protocol} {m : ModulePath}

/-- Whether the endpoint for sending the messages of a protocol takes the key of a module. -/
def takesKey (d : Document) (role : Role) (m : ModulePath) (q : Protocol) : Bool :=
  m.reference == Gateway.restTriggerRef && sends d role q

/-- Of the imports for microgateways, only the one for sending can have the key of a module that
speaks a protocol. -/
theorem find?_gatewayImports (mem : m ∈ p.modules) (role : Role) :
    (gatewayImports d role q).find? (Import.key · == m.reference) =
      if takesKey d role m q then some m.reference else none := by
  have all : ∀ p ∈ Protocol.all, ∀ m ∈ p.modules, ∀ inbound outbound : Bool,
      ((if inbound then [Gateway.microgatewayRef, Gateway.logRef, Gateway.methodInvokerRef]
          else []) ++
        if outbound then [Gateway.microgatewayRef, Gateway.logRef, Gateway.restTriggerRef]
          else []).find? (Import.key · == m.reference) =
      if m.reference == Gateway.restTriggerRef && outbound then some m.reference else none := by
    decide +kernel
  exact all p p.mem_all m mem (receives d role q) (sends d role q)

/-- Under the key of a module of another protocol, a pass registers at most the import for
sending. -/
theorem find?_passImports_of_ne (ne : q ≠ p) (mem : m ∈ p.modules) :
    (passImports d o q).find? (Import.key · == m.reference) =
      if takesKey d o.role m q then some m.reference else none := by
  have servers : ((protocolServers q d).flatMap (placedImports d o q)).find?
      (Import.key · == m.reference) = none := by
    refine List.find?_eq_none.2 fun text memText => ?_
    obtain ⟨x, -, memText⟩ := List.mem_flatMap.1 memText
    have foreign : ∃ m' ∈ q.modules, ∃ version, text = m'.importAt version := by
      rcases List.mem_append.1 memText with memText | memText
      · split at memText
        · exact ⟨_, trigger_mem_modules q, _, List.mem_singleton.1 memText⟩
        · cases memText
      · split at memText
        · obtain ⟨activity, memActivity, rfl⟩ := List.mem_map.1 memText
          exact ⟨activity, activity_mem_modules (Option.mem_toList.1 memActivity), _, rfl⟩
        · cases memText
    obtain ⟨m', mem', version, rfl⟩ := foreign
    exact fun eq => key_ne_reference ne mem mem' version (eq_of_beq eq)
  rw [passImports, List.find?_append, servers, Option.none_or, find?_gatewayImports mem]

variable {x : PlacedServer}

/-- **Under the key of its trigger module, a pass registers the import for its first server**, if
that has this key. -/
theorem find?_passImports_trigger (able : receives d o.role p = true)
    (first : (protocolServers p d).head? = some x)
    (key : Import.key (triggerImport o.catalog p (endpointOf p d x).extensions) =
      p.trigger.reference) :
    (passImports d o p).find? (Import.key · == p.trigger.reference) =
      some (triggerImport o.catalog p (endpointOf p d x).extensions) := by
  obtain ⟨xs, servers⟩ := List.head?_eq_some_iff.1 first
  rw [passImports, servers, List.flatMap_cons, placedImports, if_pos able]
  exact List.find?_cons_of_pos (beq_iff_eq.2 key)

/-- **Under the key of its activity module, a pass registers the import for its first server**, if
that has this key. -/
theorem find?_passImports_activity (able : sends d o.role p = true)
    (first : (protocolServers p d).head? = some x) (h : p.activity = some m)
    (key : Import.key (activityImport o.catalog p m (endpointOf p d x).extensions) =
      m.reference) :
    (passImports d o p).find? (Import.key · == m.reference) =
      some (activityImport o.catalog p m (endpointOf p d x).extensions) := by
  obtain ⟨xs, servers⟩ := List.head?_eq_some_iff.1 first
  have trigger : ((if receives d o.role p then
      [triggerImport o.catalog p (endpointOf p d x).extensions] else []) : List String).find?
        (Import.key · == m.reference) = none := by
    refine List.find?_eq_none.2 fun text mem => ?_
    split at mem
    · obtain rfl := List.mem_singleton.1 mem
      exact fun eq => key_trigger_ne_activity h _ (eq_of_beq eq)
    · cases mem
  rw [passImports, servers, List.flatMap_cons, placedImports, if_pos able, h, Option.toList_some,
    List.map_singleton, List.append_assoc, List.append_assoc, List.find?_append, trigger,
    Option.none_or]
  exact List.find?_cons_of_pos (beq_iff_eq.2 key)

end Passes

/-! ## What a compilation registers first -/

/-- The protocols that are compiled before a protocol. -/
def Protocol.before (p : Protocol) : List Protocol :=
  all.takeWhile (· ≠ p)

/-- The protocols before one, then it, then others. -/
theorem Protocol.all_eq (p : Protocol) : ∃ after, all = p.before ++ p :: after := by
  cases p <;> exact ⟨_, rfl⟩

/-- A protocol does not come before itself. -/
theorem Protocol.ne_of_mem_before {p q : Protocol} (mem : q ∈ p.before) : q ≠ p := by
  simpa using List.mem_takeWhile_imp mem

/-- Whether a module has been imported without a version before its protocol is compiled: it is the
one on which endpoints for sending are built, and an earlier protocol sends. -/
def overtaken (d : Document) (role : Role) (p : Protocol) (m : ModulePath) : Bool :=
  p.before.any (takesKey d role m)

/-- The trigger module that can be overtaken is that of HTTP, by the three protocols that are
compiled before it and can send. -/
theorem overtaken_trigger (d : Document) (role : Role) (p : Protocol) :
    overtaken d role p p.trigger =
      (decide (p = .http) && [Protocol.kafka, .eftl, .mqtt].any (sends d role)) := by
  have rest : ∀ p ∈ Protocol.all, (p.trigger.reference == Gateway.restTriggerRef) =
      decide (p = .http) := by decide +kernel
  have silent : sends d role .ws = false := by simp [sends, Protocol.activity]
  have before : Protocol.before .http = [.kafka, .eftl, .mqtt, .ws] := by decide
  unfold overtaken takesKey
  rw [rest p p.mem_all]
  by_cases eq : p = .http
  · subst eq
    simp [before, silent]
  · simp [eq]

/-- No module of an activity is one on which endpoints for sending are built. -/
theorem overtaken_activity (d : Document) (role : Role) {p : Protocol} {activity : ModulePath}
    (h : p.activity = some activity) : overtaken d role p activity = false := by
  have all : ∀ p ∈ Protocol.all, ∀ activity ∈ p.activity,
      (activity.reference == Gateway.restTriggerRef) = false := by decide +kernel
  rw [overtaken, List.any_eq_false]
  intro q _
  rw [takesKey, all p p.mem_all activity h]
  exact Bool.false_ne_true

/-- A search that always finds the same asks whether it finds anything. -/
theorem findSome?_ite {α β : Type} (test : α → Bool) (b : β) (as : List α) :
    (as.findSome? fun a => if test a then some b else none) =
      if as.any test then some b else none := by
  induction as with
  | nil => rfl
  | cons a as ih =>
    rw [List.findSome?_cons, List.any_cons, ih]
    cases test a <;> rfl

/-- A search depends on what is found at each item. -/
theorem findSome?_congr {α β : Type} {f g : α → Option β} {as : List α}
    (h : ∀ a ∈ as, f a = g a) : as.findSome? f = as.findSome? g := by
  induction as with
  | nil => rfl
  | cons a as ih =>
    obtain ⟨head, tail⟩ := List.forall_mem_cons.1 h
    rw [List.findSome?_cons, List.findSome?_cons, head, ih tail]

section Compilations

variable {d : Document} {o : Options} {p : Protocol} {m : ModulePath} {c : Compilation}

/-- **Under the key of a module of a protocol**, a compilation registers what the pass of the
protocol does, unless the module is overtaken. -/
theorem imports_of_key (h : compile d o = .ok c) (mem : m ∈ p.modules) {text : String}
    (own : (passImports d o p).find? (Import.key · == m.reference) = some text) :
    c.app.imports.filter (Import.key · == m.reference) =
      [if overtaken d o.role p m then m.reference else text] := by
  obtain ⟨all, -⟩ := compile_eq_ok_iff.1 h
  have registered : (Protocol.all.flatMap fun q => (pass o q d).items Emission.importing?) =
      Protocol.all.flatMap (passImports d o) :=
    List.flatMap_congr fun q _ => imports_of_pass (all q)
  have earlier : (p.before.flatMap (passImports d o)).find? (Import.key · == m.reference) =
      if overtaken d o.role p m then some m.reference else none := by
    rw [List.find?_flatMap, overtaken, ← findSome?_ite]
    exact findSome?_congr fun q memBefore =>
      find?_passImports_of_ne (Protocol.ne_of_mem_before memBefore) mem
  obtain ⟨after, split⟩ := p.all_eq
  -- The pass of the protocol has come first, so what later passes register does not count.
  rw [(collects_of_compile h).imports, filter_firstOfEach, registered, split, List.flatMap_append,
    List.find?_append, earlier, List.flatMap_cons, List.find?_append, own]
  split <;> rfl

/-! ## The first server of a protocol -/

/-- The first server of a protocol that has a trigger in an application. -/
def firstTriggered (d : Document) (app : Flogo.App) (p : Protocol) : Option PlacedServer :=
  (protocolServers p d).find? fun x => app.triggers.any (·.id == serverLabel p x.2)

/-- The services that a server contributes. -/
def servicesOf (o : Options) (p : Protocol) (d : Document) (x : PlacedServer) : List Service :=
  match (compileServer o p d x.2 x.1.1 x.1.2).result with
  | .ok parts => parts.services
  | .error _ => []

/-- The first server of a protocol that contributes services. -/
def firstServing (d : Document) (o : Options) (p : Protocol) : Option PlacedServer :=
  (protocolServers p d).find? fun x => !(servicesOf o p d x).isEmpty

/-- All servers of a protocol have triggers, or none has. -/
theorem any_triggerId (h : compile d o = .ok c) {x : PlacedServer}
    (mem : x ∈ protocolServers p d) :
    c.app.triggers.any (·.id == serverLabel p x.2) = receives d o.role p := by
  obtain ⟨all, -⟩ := compile_eq_ok_iff.1 h
  have ids : c.app.triggers.map Trigger.id = Protocol.all.flatMap fun q =>
      ((pass o q d).items Emission.trigger?).map Trigger.id := by
    rw [(collects_of_compile h).triggers, List.map_flatMap]
  have listed : c.app.triggers.any (·.id == serverLabel p x.2) = true ↔
      serverLabel p x.2 ∈ c.app.triggers.map Trigger.id := by
    simp
  rw [Bool.eq_iff_iff, listed, ids, List.mem_flatMap]
  constructor
  -- A trigger with this identifier may come from any pass; the identifier says from which.
  · rintro ⟨q, -, memId⟩
    rw [triggerIds_of_pass (all q)] at memId
    rcases List.mem_append.1 memId with memId | memId
    · split at memId
      next able =>
        obtain ⟨y, -, eq⟩ := List.mem_map.1 memId
        exact (serverLabel_inj eq).1 ▸ able
      next => cases memId
    · split at memId
      · exact absurd (List.mem_singleton.1 memId) (serverLabel_ne_publishName p q x.2)
      · cases memId
  · intro able
    refine ⟨p, p.mem_all, ?_⟩
    rw [triggerIds_of_pass (all p), if_pos able]
    exact List.mem_append_left _ (List.mem_map.2 ⟨x, mem, rfl⟩)

/-- All servers of a protocol contribute services, or none does. -/
theorem isEmpty_servicesOf (h : compile d o = .ok c) {x : PlacedServer}
    (mem : x ∈ protocolServers p d) :
    (!(servicesOf o p d x).isEmpty) = sends d o.role p := by
  obtain ⟨all, -⟩ := compile_eq_ok_iff.1 h
  have result : (compileServer o p d x.2 x.1.1 x.1.2).result =
      .ok ⟨!(placedHandlers d o.role p x).isEmpty, placedServices d o.role p x⟩ :=
    congrArg Trace.result (servers_of_pass (all p) mem).2
  have some : (protocolServers p d).isEmpty = false := by
    simpa using List.ne_nil_of_mem mem
  rw [servicesOf, result, sends, some]
  simp only [placedServices, isEmpty_serverServices, Bool.not_not, Bool.not_false, Bool.true_and]

/-- If all items of a list pass a test or none does, the first that passes it is the first item. -/
theorem head?_of_find? {α : Type} {test : α → Bool} {b : Bool} {as : List α} {a : α}
    (uniform : ∀ a ∈ as, test a = b) (found : as.find? test = some a) :
    b = true ∧ as.head? = some a := by
  have passes : b = true :=
    (uniform a (List.mem_of_find?_eq_some found)).symm.trans (List.find?_some found)
  refine ⟨passes, ?_⟩
  cases as with
  | nil => cases found
  | cons a' as =>
    rw [List.find?_cons_of_pos ((uniform a' List.mem_cons_self).trans passes)] at found
    exact found

/-- The import of a trigger module is at the version of the first server with a trigger, unless the
module is overtaken. -/
theorem trigger_import_of_compile (h : compile d o = .ok c) {x : PlacedServer} {v : String}
    (first : firstTriggered d c.app p = some x)
    (version : effectiveVersion x.1.2 "x-trigger-version" (o.catalog.triggerVersion? p.name) =
      some v) (clean : ¬ [':', '/'] <:+: v.toList) :
    c.app.imports.filter (Import.key · == p.trigger.reference) =
      [if overtaken d o.role p p.trigger then p.trigger.reference
        else p.trigger.pinned v] := by
  obtain ⟨all, -⟩ := compile_eq_ok_iff.1 h
  obtain ⟨able, head⟩ := head?_of_find? (fun y mem => any_triggerId h mem) first
  rw [← (versions_endpointOf (all p) (List.mem_of_head? head) _).1] at version
  have asked : triggerImport o.catalog p (endpointOf p d x).extensions =
      p.trigger.pinned v := congrArg p.trigger.importAt version
  have own := find?_passImports_trigger able head
    (asked ▸ ModulePath.key_pinned (plain_of_mem_modules (trigger_mem_modules p)) clean)
  exact imports_of_key h (trigger_mem_modules p) (asked ▸ own)

/-- The import of an activity module is at the version of the first server with services. -/
theorem activity_import_of_compile (h : compile d o = .ok c) (hm : p.activity = some m)
    {x : PlacedServer} {v : String} (first : firstServing d o p = some x)
    (version : effectiveVersion x.1.2 "x-activity-version" (o.catalog.activityVersion? p.name) =
      some v) (clean : ¬ [':', '/'] <:+: v.toList) :
    c.app.imports.filter (Import.key · == m.reference) = [m.pinned v] := by
  obtain ⟨all, -⟩ := compile_eq_ok_iff.1 h
  obtain ⟨able, head⟩ := head?_of_find? (fun y mem => isEmpty_servicesOf h mem) first
  rw [← (versions_endpointOf (all p) (List.mem_of_head? head) _).2] at version
  have asked : activityImport o.catalog p m (endpointOf p d x).extensions = m.pinned v :=
    congrArg m.importAt version
  have own := find?_passImports_activity able head hm
    (asked ▸ ModulePath.key_pinned (plain_of_mem_modules (activity_mem_modules hm)) clean)
  rw [imports_of_key h (activity_mem_modules hm) (asked ▸ own), overtaken_activity d o.role hm]
  rfl

/-- **Which versions reach an application.**  The module of a trigger is imported once.  Its version
is that of the first server of the protocol with a trigger, with one exception: for HTTP it is
imported without a version if a protocol that is compiled earlier sends.  The module of an activity
is imported at the version of the first server with services, without exception. -/
theorem pins_of_compile (h : compile d o = .ok c) (p : Protocol) :
    (∀ x v, firstTriggered d c.app p = some x →
      effectiveVersion x.1.2 "x-trigger-version" (o.catalog.triggerVersion? p.name) = some v →
      ¬ [':', '/'] <:+: v.toList →
      c.app.imports.filter (Import.key · == p.trigger.reference) =
        [if p = .http ∧ [Protocol.kafka, .eftl, .mqtt].any (sends d o.role) = true then
            p.trigger.reference
          else p.trigger.pinned v]) ∧
    ∀ activity x v, p.activity = some activity → firstServing d o p = some x →
      effectiveVersion x.1.2 "x-activity-version" (o.catalog.activityVersion? p.name) = some v →
      ¬ [':', '/'] <:+: v.toList →
      c.app.imports.filter (Import.key · == activity.reference) = [activity.pinned v] := by
  constructor
  · intro x v first version clean
    rw [trigger_import_of_compile h first version clean, overtaken_trigger]
    simp only [Bool.and_eq_true, decide_eq_true_eq]
  · intro activity x v hm first version clean
    exact activity_import_of_compile h hm first version clean

end Compilations

/-! ## A version that is lost -/

/-- A document whose second server asks for versions, behind one of a protocol that sends. -/
def pinnedDocument : Document where
  asyncapi := "2.0.0"
  id := none
  info := { title := "pinned", version := "1.0.0" }
  servers := .list [plainServer "broker" "broker:9092" "kafka",
    plainServer "web" "web.example" "http" (Dict.ofList
      [("x-trigger-version", .text "v1.2.3"), ("x-activity-version", .text "v4.5.6")])]
  channels := Dict.ofList [("/door", plainChannel)]
  components := none

/-- The server that asks for versions, at its place. -/
def pinnedServer : PlacedServer :=
  (("web", plainServer "web" "web.example" "http" (Dict.ofList
    [("x-trigger-version", .text "v1.2.3"), ("x-activity-version", .text "v4.5.6")])), 1)

theorem compile_pinnedDocument :
    ∃ c, compile pinnedDocument {} = .ok c ∧
      firstTriggered pinnedDocument c.app .http = some pinnedServer := by
  have outcome : (compile pinnedDocument {}).toOption.map
      (fun c => c.app.triggers.map Trigger.id) =
      some ["kafka0", "kafkaPublish", "http1", "httpPublish"] := by decide +kernel
  obtain ⟨c, hc, ids⟩ := Trace.exists_ok_of_toOption outcome
  have listed : "http1" ∈ c.app.triggers.map Trigger.id := by
    rw [ids]
    decide
  obtain ⟨t, mem, id⟩ := List.mem_map.1 listed
  have servers : protocolServers .http pinnedDocument = [pinnedServer] := rfl
  refine ⟨c, hc, ?_⟩
  rw [firstTriggered, servers]
  exact List.find?_cons_of_pos (List.any_eq_true.2 ⟨t, mem, beq_iff_eq.2 id⟩)

/-- The version of an HTTP server is dropped after a Kafka server has imported the same trigger;
that of the activity is kept. -/
theorem pinnedDocument_pins :
    ∃ c, compile pinnedDocument {} = .ok c ∧
      firstTriggered pinnedDocument c.app .http = some pinnedServer ∧
      c.app.imports.filter (Import.key · == Protocol.http.trigger.reference) =
        ["github.com/project-flogo/contrib/trigger/rest"] ∧
      c.app.imports.filter (Import.key · == "github.com/project-flogo/contrib/activity/rest") =
        ["github.com/project-flogo/contrib/activity/rest@v4.5.6"] := by
  obtain ⟨c, hc, first⟩ := compile_pinnedDocument
  obtain ⟨trigger, activity⟩ := pins_of_compile hc .http
  have serving : firstServing pinnedDocument {} .http = some pinnedServer := rfl
  have lost := trigger pinnedServer "v1.2.3" first rfl (by decide)
  have kept := activity _ pinnedServer "v4.5.6" rfl serving rfl (by decide)
  have sent : [Protocol.kafka, .eftl, .mqtt].any (sends pinnedDocument .server) = true := by
    decide +kernel
  rw [if_pos ⟨rfl, sent⟩] at lost
  exact ⟨c, hc, first, lost, kept⟩

/-- **A version that a server asks for may be lost**: the endpoint for sending of an earlier
protocol imports the module without a version. -/
theorem not_every_pin_reaches_the_application :
    ¬ ∀ (d : Document) (o : Options) (c : Compilation) (p : Protocol) (x : PlacedServer)
        (v : String), compile d o = .ok c → firstTriggered d c.app p = some x →
      effectiveVersion x.1.2 "x-trigger-version" (o.catalog.triggerVersion? p.name) = some v →
      ¬ [':', '/'] <:+: v.toList →
      c.app.imports.filter (Import.key · == p.trigger.reference) =
        [p.trigger.pinned v] := by
  intro all
  obtain ⟨c, hc, first⟩ := compile_pinnedDocument
  have asked := all pinnedDocument {} c .http pinnedServer "v1.2.3" hc first rfl (by decide)
  have found := trigger_import_of_compile hc first (v := "v1.2.3") rfl (by decide)
  have overtakes : overtaken pinnedDocument .server .http Protocol.http.trigger = true := by
    decide +kernel
  rw [if_pos overtakes, asked] at found
  exact absurd found (by decide +kernel)

end EventGateway
