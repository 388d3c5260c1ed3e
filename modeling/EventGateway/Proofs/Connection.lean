import EventGateway.Proofs.Contribution
import EventGateway.Proofs.Evaluation

/-!
# The connection of a server in closed form

Connecting a server puts the values of its variables, its URL and its port into properties, and
leaves two settings that refer to them.  Both are settings of terms (`urlTerm`, `portTerm?`), so
what they refer to and what they evaluate to are questions about terms.

## Main statements

* `connect_of_ok` — the settings and the emissions of a server that can be connected.
* `properties_of_compile`, `exists_conflict_iff` — the properties of a compilation and its
  conflicts, from those of all connections.
* `valueOf?_of_compile` — without conflicts, every property of a connection has its value in the
  application.
-/

namespace EventGateway

open AsyncApi
open Flogo (Property Term)
open Text (Template)

/-! ## Terms and properties of a connection -/

section Terms

variable (label : String) (s : Server)

/-- The term of the URL. -/
def urlTerm : Term :=
  if (Template.parse s.url).hasVariable then Term.ofTemplate (propertyName label) (.parse s.url)
  else .property (label ++ "URL")

/-- The term of the port, if the URL has one. -/
def portTerm? : Option Term :=
  if (Template.ofPort s.url).isEmpty then none
  else if (Template.ofPort s.url).hasVariable then
    some (.integer (Term.ofTemplate (propertyName label) (.ofPort s.url)))
  else some (.property (label ++ "Port"))

/-- The property of the URL, unless the URL has variables. -/
def urlProperties : List Property :=
  if (Template.parse s.url).hasVariable then [] else [.string (label ++ "URL") s.url]

/-- The property of the port, if the URL has one without variables. -/
def portProperties : List Property :=
  if (Template.ofPort s.url).isEmpty || (Template.ofPort s.url).hasVariable then []
  else (Term.decimal? (Template.ofPort s.url).literalText).toList.map (.integer (label ++ "Port"))

/-- The warnings about the variables of the URL. -/
def urlWarnings (server : String) : List Warning :=
  (undeclaredVariables s).map (.undeclaredVariable server)

/-- All properties of a connection. -/
def connectionProperties : List Property :=
  serverProperties label s ++ urlProperties label s ++ portProperties label s

end Terms

section Cases

variable {label : String} {s : Server}

/-- A URL is made from its variables, or it is a property of its own. -/
theorem urlTerm_cases (label : String) (s : Server) :
    (∃ name, name ∈ (Template.parse s.url).variableNames) ∧
        urlTerm label s = Term.ofTemplate (propertyName label) (.parse s.url) ∨
      (Template.parse s.url).hasVariable = false ∧
        urlTerm label s = .property (label ++ "URL") ∧
        .string (label ++ "URL") s.url ∈ connectionProperties label s := by
  unfold urlTerm
  cases hasVariable : (Template.parse s.url).hasVariable with
  | true => exact .inl ⟨Template.hasVariable_parse.1 hasVariable, rfl⟩
  | false =>
    refine .inr ⟨rfl, rfl, List.mem_append_left _ (List.mem_append_right _ ?_)⟩
    simp [urlProperties, hasVariable]

/-- A port is made from its variables, or it is a property of its own. -/
theorem portTerm?_cases {t : Term} (ht : portTerm? label s = some t) :
    (∃ name, name ∈ (Template.ofPort s.url).variableNames) ∧
        t = .integer (Term.ofTemplate (propertyName label) (.ofPort s.url)) ∨
      (Template.ofPort s.url).isEmpty = false ∧ (Template.ofPort s.url).hasVariable = false ∧
        t = .property (label ++ "Port") ∧
        ∀ n, Term.decimal? (Template.ofPort s.url).literalText = some n →
          .integer (label ++ "Port") n ∈ connectionProperties label s := by
  unfold portTerm? at ht
  cases empty : (Template.ofPort s.url).isEmpty with
  | true => simp [empty] at ht
  | false =>
    cases hasVariable : (Template.ofPort s.url).hasVariable with
    | true =>
      rw [empty, hasVariable] at ht
      exact .inl ⟨Template.hasVariable_ofPort.1 hasVariable, (Option.some.inj ht).symm⟩
    | false =>
      rw [empty, hasVariable] at ht
      refine .inr ⟨rfl, rfl, (Option.some.inj ht).symm, fun n read => ?_⟩
      exact List.mem_append_right _ (by simp [portProperties, empty, hasVariable, read])

end Cases

/-! ## Steps of a connection -/

/-- **The URL of a server** as an expression, with all that is said about it on the way. -/
theorem connectUrl_eq (label server : String) (s : Server) :
    connectUrl label server s =
      ⟨(urlWarnings s server).map .warning ++ (urlProperties label s).map .property,
        .ok (urlTerm label s).setting⟩ := by
  unfold connectUrl urlTerm urlProperties
  by_cases hasVariable : (Template.parse s.url).hasVariable = true
  · simp only [if_pos hasVariable, Flogo.Expression.render_eq]
    rw [Trace.bind_of_ok rfl]
    simp only [urlWarnings, List.map_map]
    rfl
  · have silent : urlWarnings s server = [] := by
      have none : (Template.parse s.url).variableNames = [] :=
        List.eq_nil_iff_forall_not_mem.2 fun name mem =>
          hasVariable (Template.hasVariable_parse.2 ⟨name, mem⟩)
      rw [urlWarnings, undeclaredVariables, none]
      rfl
    simp only [if_neg hasVariable, Flogo.Expression.render_eq, silent]
    rfl

/-- **The port of a URL that can be connected.**  A port without variables stands for an integer. -/
theorem connectPort_of_ok {label : String} {s : Server} {port : Option String}
    (h : (connectPort label s).result = .ok port) :
    connectPort label s =
        ⟨(portProperties label s).map .property, .ok ((portTerm? label s).map Term.setting)⟩ ∧
      ((Template.ofPort s.url).isEmpty = false → (Template.ofPort s.url).hasVariable = false →
        ∃ n, Term.decimal? (Template.ofPort s.url).literalText = some n) := by
  unfold connectPort at h ⊢
  unfold portTerm? portProperties Term.decimal?
  simp only [Flogo.Expression.render_eq, Flogo.Expression.renderInteger_eq] at h ⊢
  cases empty : (Template.ofPort s.url).isEmpty with
  | true => exact ⟨rfl, fun h => by cases h⟩
  | false =>
    cases hasVariable : (Template.ofPort s.url).hasVariable with
    | true => exact ⟨rfl, fun _ h => by cases h⟩
    | false =>
      rw [empty, hasVariable] at h
      cases read : integerOfDecimal? (Text.trim (Template.ofPort s.url).literalText.toList) with
      | none =>
        rw [read] at h
        cases h
      | some n => exact ⟨rfl, fun _ _ => ⟨n, rfl⟩⟩

/-- **What connecting a server emits**: the properties of its variables, warnings about its URL, and
the properties of its URL and its port. -/
theorem emitted_of_connect {p : Protocol} {d : Document} {index : Nat} {name : String} {s : Server}
    {e : Endpoint} (h : (connect p d index name s).result = .ok e) :
    (connect p d index name s).emitted =
      (serverProperties (serverLabel p index) s).map .property ++
        ((urlWarnings s name).map .warning ++
          (urlProperties (serverLabel p index) s).map .property ++
          (portProperties (serverLabel p index) s).map .property) := by
  rw [connect_eq] at h
  obtain ⟨extensions, hextensions, h⟩ := Trace.result_bind_eq_ok.1 h
  obtain ⟨-, -, h⟩ := Trace.result_bind_eq_ok.1 h
  obtain ⟨url, -, h⟩ := Trace.result_bind_eq_ok.1 h
  obtain ⟨port, hport, -⟩ := Trace.result_bind_eq_ok.1 h
  obtain ⟨portEq, -⟩ := connectPort_of_ok hport
  rw [connect_eq, Trace.bind_of_ok hextensions, Trace.bind_of_ok (Trace.result_emitAll _),
    connectUrl_eq, Trace.bind_of_ok rfl, portEq, Trace.bind_of_ok rfl]
  simp

/-- What connecting a server to an endpoint leaves. -/
structure Connected (label name : String) (s : Server) (t : Trace Endpoint) (e : Endpoint) :
    Prop where
  url : e.url = (urlTerm label s).setting
  port : e.port = (portTerm? label s).map Term.setting
  properties : ∀ q ∈ connectionProperties label s, .property q ∈ t.emitted
  warnings : ∀ w ∈ urlWarnings s name, .warning w ∈ t.emitted
  /-- A port without variables stands for an integer. -/
  literalPort : (Template.ofPort s.url).isEmpty = false →
    (Template.ofPort s.url).hasVariable = false →
      ∃ n, Term.decimal? (Template.ofPort s.url).literalText = some n

/-- **Connecting a server**, step by step: the variables, the URL, the port. -/
theorem connect_of_ok {p : Protocol} {d : Document} {index : Nat} {name : String} {s : Server}
    {e : Endpoint} (h : (connect p d index name s).result = .ok e) :
    Connected (serverLabel p index) name s (connect p d index name s) e := by
  have emitted := emitted_of_connect h
  obtain ⟨extensions, -, h⟩ := Trace.result_bind_eq_ok.1 h
  obtain ⟨-, -, h⟩ := Trace.result_bind_eq_ok.1 h
  obtain ⟨url, hurl, h⟩ := Trace.result_bind_eq_ok.1 h
  obtain ⟨port, hport, h⟩ := Trace.result_bind_eq_ok.1 h
  obtain ⟨portEq, literalPort⟩ := connectPort_of_ok hport
  rw [connectUrl_eq] at hurl
  rw [portEq] at hport
  obtain rfl := Except.ok.inj h
  refine ⟨(Except.ok.inj hurl).symm, (Except.ok.inj hport).symm, fun q mem => ?_, fun w mem => ?_,
    literalPort⟩
  · rw [emitted]
    rcases List.mem_append.1 mem with mem | mem
    · rcases List.mem_append.1 mem with mem | mem
      · exact List.mem_append_left _ (List.mem_map_of_mem mem)
      · exact List.mem_append_right _ (List.mem_append_left _
          (List.mem_append_right _ (List.mem_map_of_mem mem)))
    · exact List.mem_append_right _ (List.mem_append_right _ (List.mem_map_of_mem mem))
  · rw [emitted]
    exact List.mem_append_right _ (List.mem_append_left _
      (List.mem_append_left _ (List.mem_map_of_mem mem)))

/-- The properties that connecting a server emits are those of the connection, in order. -/
theorem properties_of_connect {p : Protocol} {d : Document} {index : Nat} {name : String}
    {s : Server} {e : Endpoint} (h : (connect p d index name s).result = .ok e) :
    (connect p d index name s).items Emission.property? =
      connectionProperties (serverLabel p index) s := by
  have kept : ∀ qs : List Property,
      (qs.map Emission.property).filterMap Emission.property? = qs := by
    intro qs
    rw [List.filterMap_map]
    exact List.filterMap_some
  have dropped : ∀ ws : List Warning,
      (ws.map Emission.warning).filterMap Emission.property? = [] := by
    intro ws
    rw [List.filterMap_map]
    exact List.filterMap_eq_nil_iff.2 fun _ _ => rfl
  rw [Trace.items, emitted_of_connect h, connectionProperties]
  simp only [List.filterMap_append, kept, dropped, List.nil_append, List.append_assoc]

/-! ## What a compilation registers -/

/-- The properties of all servers, in the order in which they are registered. -/
def AsyncApi.Document.properties (d : Document) : List Property :=
  Protocol.all.flatMap fun p => (protocolServers p d).flatMap fun x =>
    connectionProperties (serverLabel p x.2) x.1.2

/-- The properties of a document are those of the connections of its servers. -/
theorem AsyncApi.Document.mem_properties_iff {d : Document} {q : Property} :
    q ∈ d.properties ↔ ∃ p, ∃ x ∈ protocolServers p d,
      q ∈ connectionProperties (serverLabel p x.2) x.1.2 := by
  simp only [Document.properties, List.mem_flatMap, Protocol.mem_all, true_and]

/-- Under the name of a property that is registered stands a first one. -/
theorem AsyncApi.Document.exists_first {d : Document} {q : Property} (mem : q ∈ d.properties) :
    ∃ kept, d.properties.find? (·.name == q.name) = some kept :=
  Option.isSome_iff_exists.1 (List.find?_isSome.2 ⟨q, mem, beq_self_eq_true q.name⟩)

section Compilations

variable {d : Document} {o : Options} {c : Compilation}

/-- What connecting the servers of a compiled document emits registers their properties. -/
theorem items_connection_of_compile (h : compile d o = .ok c) {p : Protocol} {x : PlacedServer}
    (mem : x ∈ protocolServers p d) :
    (connection p d x).items Emission.property? =
      connectionProperties (serverLabel p x.2) x.1.2 :=
  properties_of_connect (servers_of_pass ((compile_eq_ok_iff.1 h).1 p) mem).1

/-- A server that is connected emits the properties of its connection. -/
theorem property_mem_connection_iff (h : compile d o = .ok c) {p : Protocol} {x : PlacedServer}
    (mem : x ∈ protocolServers p d) {q : Property} :
    .property q ∈ (connection p d x).emitted ↔
      q ∈ connectionProperties (serverLabel p x.2) x.1.2 := by
  rw [← items_connection_of_compile h mem, Trace.items, List.mem_filterMap]
  constructor
  · intro emitted
    exact ⟨_, emitted, rfl⟩
  · rintro ⟨e, emitted, eq⟩
    cases e with
    | property q' => exact Option.some.inj eq ▸ emitted
    | _ => cases eq

/-- The passes of a compilation emit the properties of the document, in order. -/
theorem properties_of_passes (h : compile d o = .ok c) :
    (Protocol.all.flatMap fun p => (pass o p d).emitted).filterMap Emission.property? =
      d.properties := by
  rw [List.filterMap_flatMap]
  refine List.flatMap_congr fun p _ => ?_
  rw [← Trace.items, properties_of_pass ((compile_eq_ok_iff.1 h).1 p)]
  exact List.flatMap_congr fun x mem => items_connection_of_compile h mem

/-- The application has the first property of each name. -/
theorem properties_of_compile (h : compile d o = .ok c) :
    c.app.properties = firstOfEach Property.name [] d.properties := by
  rw [(collects_of_compile h).properties, ← properties_of_passes h, List.filterMap_flatMap]
  rfl

/-- A compilation has the first property of each name. -/
theorem property?_of_compile (h : compile d o = .ok c) (name : String) :
    c.app.property? name = d.properties.find? (·.name == name) := by
  rw [Flogo.App.property?, properties_of_compile h]
  exact find?_firstOfEach Property.name name d.properties

/-- No conflict is reported before the end. -/
theorem conflict_notMem_absorbAll (d : Document) (o : Options) (k : Conflict) :
    .conflict k ∉ ((startContext d o).absorbAll
      (Protocol.all.flatMap fun p => (pass o p d).emitted)).warnings := by
  intro mem
  rcases Context.mem_warnings_absorbAll_cases _ _ mem with old | ⟨e, mem, new⟩
  · obtain ⟨server, protocol, eq⟩ := eq_of_mem_unsupportedServers old
    cases eq
  · have isFrom := isFrom_of_mem_passes mem
    cases e with
    | warning w =>
      obtain rfl := List.mem_singleton.1 new
      obtain ⟨server, name, eq⟩ := isFrom
      cases eq
    | bindings channel direction info defects =>
      obtain ⟨defect, -, eq⟩ := List.mem_map.1 new
      cases eq
    | _ => cases new

/-- A conflict is reported if some property does not agree with the first one of its name. -/
theorem exists_conflict_iff (h : compile d o = .ok c) :
    (∃ k, .conflict k ∈ c.warnings) ↔ ∃ q ∈ d.properties, ∃ kept,
      d.properties.find? (·.name == q.name) = some kept ∧ kept.agrees q = false := by
  have registered := properties_of_passes h
  obtain ⟨-, rfl⟩ := compile_eq_ok_iff.1 h
  rw [← PropertyRegistry.conflicts_registerAll_ne_nil_iff, Context.warnings_finish,
    Context.properties_absorbAll, registered]
  show _ ↔ (d.properties.foldl PropertyRegistry.insert ∅).conflicts ≠ []
  constructor
  · rintro ⟨k, mem⟩
    rcases List.mem_append.1 mem with before | reported
    · exact absurd before (conflict_notMem_absorbAll d o k)
    · obtain ⟨k, mem, -⟩ := List.mem_map.1 reported
      exact List.ne_nil_of_mem mem
  · intro some
    obtain ⟨k, mem⟩ := List.exists_mem_of_ne_nil _ some
    exact ⟨k, List.mem_append_right _ (List.mem_map_of_mem mem)⟩

end Compilations

/-! ## From a connection to the application -/

/-- The values of the properties of an application. -/
def Flogo.App.valueOf? (app : Flogo.App) (name : String) : Option Value :=
  (app.property? name).map Property.value

/-- Only a text is the same as a text. -/
theorem Value.eq_text_of_same {v : Value} {t : String} (h : v.same (.text t) = true) :
    v = .text t := by
  obtain ⟨json, canonical⟩ := v
  refine Value.ext ?_
  cases json with
  | text value => exact congrArg Json.text (eq_of_beq h)
  | _ => cases h

/-- Only an integer is the same as an integer. -/
theorem Value.eq_integer_of_same {v : Value} {n : Int} (h : v.same (.integer n) = true) :
    v = .integer n := by
  obtain ⟨json, canonical⟩ := v
  refine Value.ext ?_
  cases json with
  | number value =>
    cases value with
    | integer m => exact congrArg (fun m => Json.number (.integer m)) (eq_of_beq h)
    | float _ => cases h
  | _ => cases h

section Compilations

variable {d : Document} {o : Options} {c : Compilation} {p : Protocol} {x : PlacedServer}

/-- A pass emits what connecting its servers emits. -/
theorem mem_emitted_of_connection (h : (pass o p d).result = .ok ())
    (mem : x ∈ protocolServers p d) {e : Emission} (he : e ∈ (connection p d x).emitted) :
    e ∈ (pass o p d).emitted := by
  have placed : e ∈ passEmissions d o p :=
    List.mem_append_left _ (List.mem_flatMap.2 ⟨x, mem, List.mem_append_left _ he⟩)
  rw [← pass_of_ok h] at placed
  exact List.mem_of_mem_filter placed

/-- What connecting a server of a compiled document leaves. -/
theorem connected_of_compile (h : compile d o = .ok c) (mem : x ∈ protocolServers p d) :
    Connected (serverLabel p x.2) x.1.1 x.1.2 (connection p d x) (endpointOf p d x) :=
  connect_of_ok (servers_of_pass ((compile_eq_ok_iff.1 h).1 p) mem).1

/-- What connecting a server emits is emitted in the course of a compilation. -/
theorem mem_emissions_of_connection (h : compile d o = .ok c) (mem : x ∈ protocolServers p d)
    {e : Emission} (he : e ∈ (connection p d x).emitted) :
    e ∈ Protocol.all.flatMap fun p => (pass o p d).emitted :=
  List.mem_flatMap.2 ⟨p, p.mem_all, mem_emitted_of_connection ((compile_eq_ok_iff.1 h).1 p) mem he⟩

/-- Every property of a connection has its name in the application. -/
theorem name_mem_of_compile (h : compile d o = .ok c) (mem : x ∈ protocolServers p d)
    {q : Property} (hq : q ∈ connectionProperties (serverLabel p x.2) x.1.2) :
    q.name ∈ c.app.properties.map Property.name := by
  have emitted := mem_emissions_of_connection h mem ((connected_of_compile h mem).properties q hq)
  rw [(collects_of_compile h).properties, mem_keys_firstOfEach]
  simp only [Trace.items, ← List.filterMap_flatMap]
  exact ⟨List.mem_map_of_mem (List.mem_filterMap.2 ⟨_, emitted, rfl⟩), List.not_mem_nil⟩

/-- Every warning of a connection is reported. -/
theorem warning_mem_of_compile (h : compile d o = .ok c) (mem : x ∈ protocolServers p d)
    {w : Warning} (hw : w ∈ urlWarnings x.1.2 x.1.1) : w ∈ c.warnings := by
  have emitted := mem_emissions_of_connection h mem ((connected_of_compile h mem).warnings w hw)
  obtain ⟨-, rfl⟩ := compile_eq_ok_iff.1 h
  rw [Context.warnings_finish]
  exact List.mem_append_left _ (Context.mem_warnings_absorbAll _ _ emitted)

/-- **Without conflicts nothing is ignored.**  The value under the name of a property of a
connection is the value of that property. -/
theorem valueOf?_of_compile (h : compile d o = .ok c)
    (noConflict : ∀ k, .conflict k ∉ c.warnings) (mem : x ∈ protocolServers p d) {q : Property}
    (hq : q ∈ connectionProperties (serverLabel p x.2) x.1.2) :
    ∃ v, c.app.valueOf? q.name = some v ∧ v.same q.value = true := by
  have registered := Document.mem_properties_iff.2 ⟨p, x, mem, hq⟩
  obtain ⟨kept, found⟩ := Document.exists_first registered
  have agree : kept.agrees q = true := by
    by_contra disagree
    obtain ⟨k, reported⟩ := (exists_conflict_iff h).2
      ⟨q, registered, kept, found, Bool.not_eq_true _ ▸ disagree⟩
    exact noConflict k reported
  rw [← property?_of_compile h] at found
  exact ⟨kept.value, congrArg (Option.map Property.value) found, (Bool.and_eq_true_iff.1 agree).2⟩

/-- Without conflicts, a property that holds a text is found under its name. -/
theorem valueOf?_text_of_compile (h : compile d o = .ok c)
    (noConflict : ∀ k, .conflict k ∉ c.warnings) (mem : x ∈ protocolServers p d)
    {name text : String}
    (hq : .string name text ∈ connectionProperties (serverLabel p x.2) x.1.2) :
    c.app.valueOf? name = some (.text text) := by
  obtain ⟨v, found, same⟩ := valueOf?_of_compile h noConflict mem hq
  exact found.trans (congrArg some (Value.eq_text_of_same same))

/-- Without conflicts, a property that holds an integer is found under its name. -/
theorem valueOf?_integer_of_compile (h : compile d o = .ok c)
    (noConflict : ∀ k, .conflict k ∉ c.warnings) (mem : x ∈ protocolServers p d)
    {name : String} {n : Int}
    (hq : .integer name n ∈ connectionProperties (serverLabel p x.2) x.1.2) :
    c.app.valueOf? name = some (.integer n) := by
  obtain ⟨v, found, same⟩ := valueOf?_of_compile h noConflict mem hq
  exact found.trans (congrArg some (Value.eq_integer_of_same same))

end Compilations

/-! ## Defaults of variables -/

/-- The value of a variable where none is chosen: its default, or else the empty text. -/
def defaultOf (s : Server) (name : String) : String :=
  ((s.urlVariables.find? name).bind ServerVariable.default).getD ""

/-- The default of a variable is a property under the name of the variable alone. -/
theorem default_mem_valueProperties {name value : String} {default : Option String}
    (isDefault : default = some value) {values : List String} (mem : value ∈ values)
    (position : Nat) : .string name value ∈ valueProperties name default position values := by
  induction values generalizing position with
  | nil => cases mem
  | cons first values ih =>
    rw [valueProperties]
    rcases List.mem_cons.1 mem with rfl | later
    · rw [if_pos isDefault]
      exact List.mem_cons_self
    · exact List.mem_cons_of_mem _ (ih later (position + 1))

/-- **The plain name of a variable stands for its default**, whether the default is among the values
or not. -/
theorem default_mem_variableProperties (name : String) (v : ServerVariable) :
    .string name (v.default.getD "") ∈ variableProperties name v := by
  unfold variableProperties
  by_cases listed : v.values.any (some · == v.default) = true
  · obtain ⟨value, mem, eq⟩ := List.any_eq_true.1 listed
    have isDefault : v.default = some value := (eq_of_beq eq).symm
    rw [isDefault]
    exact List.mem_append_left _ (default_mem_valueProperties rfl mem 0)
  · rw [if_neg listed]
    exact List.mem_append_right _ List.mem_cons_self

/-- A declared variable has a property that holds its default. -/
theorem default_mem_connectionProperties {label : String} {s : Server} {name : String}
    (declared : s.urlVariables.contains name = true) :
    .string (propertyName label name) (defaultOf s name) ∈ connectionProperties label s := by
  obtain ⟨v, found⟩ := Option.isSome_iff_exists.1 declared
  rw [defaultOf, found]
  refine List.mem_append_left _ (List.mem_append_left _ (List.mem_flatMap.2 ⟨(name, v), ?_, ?_⟩))
  · exact Dict.mem_of_find? found
  · exact default_mem_variableProperties (propertyName label name) v

/-- A variable of a URL is declared, or it is reported. -/
theorem declared_or_mem_undeclaredVariables {s : Server} {name : String}
    (mem : name ∈ (Template.parse s.url).variableNames) :
    s.urlVariables.contains name = true ∨ name ∈ undeclaredVariables s := by
  cases declared : s.urlVariables.contains name with
  | true => exact .inl rfl
  | false => exact .inr (List.mem_filter.2 ⟨mem, by simp [declared]⟩)

end EventGateway
