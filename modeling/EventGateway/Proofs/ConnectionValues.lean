import EventGateway.Proofs.Composition
import EventGateway.Proofs.Connection
import EventGateway.Proofs.SecuritySettings

/-!
# What connections evaluate to

The settings of a connection are expressions over properties, and the engine evaluates them under
the properties of the application.  They come out as the document has them: the URL as its template
with every variable replaced by its default, the port as the integer of its template filled in the
same way, and the URL of an HTTP service as that of its server followed by the path of the channel.

## Main statements

* `values_of_compile` — the URL, the port and the URLs of HTTP services of a server.
-/

namespace EventGateway

open AsyncApi
open Flogo (Evaluates Term evaluates_setting)
open Text (Template)

/-! ## Names and texts that can be read back -/

/-- The label of a server consists of letters and digits. -/
theorem bracket_notMem_serverLabel (p : Protocol) (index : Nat) :
    ']' ∉ (serverLabel p index).toList := by
  rw [serverLabel, String.toList_append, List.mem_append, not_or]
  refine ⟨by cases p <;> decide, fun mem => ?_⟩
  exact absurd (isDigit_of_mem_toString mem) (by decide)

/-- A server whose URL can be told from the expression that is made of it: no quote in its literals
and no closing bracket in the names of its variables. -/
structure PlainUrl (s : Server) : Prop where
  quote : '\'' ∉ s.url.toList
  bracket : ∀ name ∈ (Template.parse s.url).variableNames, ']' ∉ name.toList

section Plain

variable {label : String} {s : Server}

/-- Two parts without a closing bracket have none together. -/
theorem bracket_notMem_append {name : String} (hlabel : ']' ∉ label.toList)
    (hname : ']' ∉ name.toList) : ']' ∉ (label ++ name).toList := by
  rw [String.toList_append, List.mem_append, not_or]
  exact ⟨hlabel, hname⟩

/-- The name of a property has no closing bracket if its label and its variable have none. -/
theorem bracket_notMem_propertyName {name : String} (hlabel : ']' ∉ label.toList)
    (hname : ']' ∉ name.toList) : ']' ∉ (propertyName label name).toList :=
  bracket_notMem_append (bracket_notMem_append hlabel (by decide)) hname

/-- The term of a plain URL can be read back from its text. -/
theorem PlainUrl.urlTerm (plain : PlainUrl s) (hlabel : ']' ∉ label.toList) :
    (urlTerm label s).Plain := by
  rcases urlTerm_cases label s with ⟨varies, term⟩ | ⟨-, term, -⟩ <;> rw [term]
  · refine Term.plain_ofTemplate varies (fun text mem quoted => ?_) fun name mem => ?_
    · rw [Template.segments_parse_eq_scan] at mem
      exact plain.quote ((Template.mem_of_mem_scan mem quoted).resolve_left List.not_mem_nil)
    · exact bracket_notMem_propertyName hlabel (plain.bracket name mem)
  · exact bracket_notMem_append hlabel (by decide)

/-- The variables of the port have plain names as well. -/
theorem PlainUrl.bracket_notMem_port (plain : PlainUrl s) {name : String}
    (mem : name ∈ (Template.ofPort s.url).variableNames) : ']' ∉ name.toList := by
  rcases Template.mem_variableNames_of_ofPort mem with whole | ⟨start, longer⟩
  · exact plain.bracket name whole
  · have none := plain.bracket _ longer
    rw [String.toList_append, List.mem_append, not_or] at none
    exact none.2

/-- The term of the port of a plain URL can be read back from its text. -/
theorem PlainUrl.portTerm (plain : PlainUrl s) (hlabel : ']' ∉ label.toList) {t : Term}
    (ht : portTerm? label s = some t) : t.Plain := by
  rcases portTerm?_cases ht with ⟨varies, rfl⟩ | ⟨-, -, rfl, -⟩
  · refine Term.plain_ofTemplate varies (fun text mem quoted => ?_) fun name mem => ?_
    · exact plain.quote (Template.mem_of_mem_ofPort mem quoted)
    · exact bracket_notMem_propertyName hlabel (plain.bracket_notMem_port mem)
  · exact bracket_notMem_append hlabel (by decide)

/-- The term of a URL joins at least two parts wherever it joins any. -/
theorem joined_urlTerm (label : String) (s : Server) : (urlTerm label s).Joined := by
  rcases urlTerm_cases label s with ⟨varies, term⟩ | ⟨-, term, -⟩ <;> rw [term]
  · exact Term.joined_ofTemplate varies
  · trivial

/-- The term of a port joins at least two parts wherever it joins any. -/
theorem joined_portTerm {t : Term} (ht : portTerm? label s = some t) : t.Joined := by
  rcases portTerm?_cases ht with ⟨varies, rfl⟩ | ⟨-, -, rfl, -⟩
  · exact Term.joined_ofTemplate varies
  · trivial

end Plain

/-! ## Values of terms -/

theorem Value.text?_text (t : String) : (Value.text t).text? = some t := rfl

/-- What the URL of a server stands for: itself, or its template with the defaults filled in. -/
def urlValue (s : Server) : String :=
  if (Template.parse s.url).hasVariable then (Template.parse s.url).render (defaultOf s) else s.url

/-- The integer that the port of a server stands for, with the defaults filled in. -/
def portValue? (s : Server) : Option Int :=
  Term.decimal? ((Template.ofPort s.url).render (defaultOf s))

/-- A template without variables is its literals, whatever is filled in. -/
theorem render_of_no_variable {t : Template} (none : ∀ name, name ∉ t.variableNames)
    (value : String → String) : t.render value = t.literalText := by
  rw [Template.render_eq, Template.literalText]
  congr 1
  have literals : ∀ seg ∈ t.segments, seg.literalText? = some (seg.fill value) := by
    intro seg mem
    cases seg with
    | literal text => rfl
    | placeholder name => exact absurd (Template.mem_variableNames.2 mem) (none name)
  rw [List.filterMap_congr literals, List.filterMap_eq_map']

section Values

variable {d : Document} {o : Options} {c : Compilation} {p : Protocol} {x : PlacedServer}

/-- The URL of a server whose variables are declared. -/
theorem value?_urlTerm (h : compile d o = .ok c) (noConflict : ∀ k, .conflict k ∉ c.warnings)
    (mem : x ∈ protocolServers p d)
    (declared : ∀ name ∈ (Template.parse x.1.2.url).variableNames,
      x.1.2.urlVariables.contains name = true) :
    (urlTerm (serverLabel p x.2) x.1.2).value? c.app.valueOf? =
      some (.text (urlValue x.1.2)) := by
  unfold urlValue
  rcases urlTerm_cases (serverLabel p x.2) x.1.2 with
    ⟨varies, term⟩ | ⟨literal, term, stored⟩ <;> rw [term]
  · rw [if_pos (Template.hasVariable_parse.2 varies)]
    refine Term.value?_ofTemplate varies fun name hname => ?_
    exact valueOf?_text_of_compile h noConflict mem
      (default_mem_connectionProperties (declared name hname))
  · rw [literal]
    exact valueOf?_text_of_compile h noConflict mem stored

/-- The port of a server whose variables are declared. -/
theorem value?_portTerm (h : compile d o = .ok c) (noConflict : ∀ k, .conflict k ∉ c.warnings)
    (mem : x ∈ protocolServers p d)
    (declared : ∀ name ∈ (Template.ofPort x.1.2.url).variableNames,
      x.1.2.urlVariables.contains name = true)
    {t : Term} (ht : portTerm? (serverLabel p x.2) x.1.2 = some t) :
    t.value? c.app.valueOf? = (portValue? x.1.2).map .integer := by
  unfold portValue?
  rcases portTerm?_cases ht with ⟨varies, rfl⟩ | ⟨nonempty, literal, rfl, stored⟩
  · have filled : (Term.ofTemplate (propertyName (serverLabel p x.2))
        (.ofPort x.1.2.url)).value? c.app.valueOf? =
        some (.text ((Template.ofPort x.1.2.url).render (defaultOf x.1.2))) := by
      refine Term.value?_ofTemplate varies fun name hname => ?_
      exact valueOf?_text_of_compile h noConflict mem
        (default_mem_connectionProperties (declared name hname))
    rw [Term.value?, filled, Option.bind_some, Value.text?_text, Option.bind_some]
  · obtain ⟨n, read⟩ := (connected_of_compile h mem).literalPort nonempty literal
    have none : ∀ name, name ∉ (Template.ofPort x.1.2.url).variableNames := fun name mem =>
      absurd (Template.hasVariable_ofPort.2 ⟨name, mem⟩) (by simp [literal])
    rw [render_of_no_variable none, read]
    exact valueOf?_integer_of_compile h noConflict mem (stored n read)

end Values

/-! ## HTTP services -/

/-- A setting without its equals sign is the text of its term. -/
theorem expressionBody_setting (t : Term) :
    Http.expressionBody t.setting = String.ofList t.write := by
  have start := t.toList_setting
  unfold Http.expressionBody
  split
  next rest eq =>
    rw [start] at eq
    rw [(List.cons.inj eq).2]
  next other => exact (other _ start).elim

/-- The URL of an HTTP service joins the URL of its server and the path. -/
theorem uri_eq {e : Endpoint} {t : Term} (url : e.url = t.setting) :
    Http.uri e = (Term.concat [t, .text (Http.path e)]).setting := by
  have uri : Http.uri e =
      "=string.concat(" ++ Http.expressionBody e.url ++ ", '" ++ Http.path e ++ "')" := rfl
  have body : Http.expressionBody e.url = String.ofList t.write :=
    url ▸ expressionBody_setting t
  have written : (Term.concat [t, .text (Http.path e)]).write = Term.concatStart ++
      (t.write ++ ',' :: ' ' :: ('\'' :: ((Http.path e).toList ++ ['\'']) ++ [')'])) := rfl
  have start : "=string.concat(".toList = '=' :: Term.concatStart := rfl
  have between : ", '".toList = [',', ' ', '\''] := rfl
  have finish : "')".toList = ['\'', ')'] := rfl
  rw [← String.toList_inj, Term.toList_setting (.concat _), written, uri, body]
  simp only [String.toList_append, String.toList_ofList, List.append_assoc, List.cons_append,
    List.nil_append, start, between, finish]

/-- No other setting of a service is in the place of its URL. -/
theorem find?_uri_service (e : Endpoint) :
    (Http.service e).find? "uri" = some (.text (Http.uri e)) := by
  have other : "uri" ∉ securityKeys := by decide
  unfold Http.service
  split <;> simp [TlsPolicy.find?_addFlat _ _ other, Dict.find?_insert?]

/-- The path of a channel at a server, with parameters behind colons. -/
def channelPath (s : Server) (channel : String) : String :=
  (Template.parse (resolveTopic channel s.baseChannel)).colonParams

/-- The service of an HTTP server for an operation by which messages are sent. -/
def httpService (d : Document) (x : PlacedServer) (operation : String × Channel × Operation) :
    Flogo.Service :=
  operationService .http ⟨"github.com/project-flogo/contrib/activity/rest", none⟩ operation.1
    (channelEndpoint x.1.2 (endpointOf .http d x) operation.1 operation.2.1 operation.2.2)

/-- The services of HTTP servers are part of the application. -/
theorem exists_resource_of_httpService {d : Document} {o : Options} {c : Compilation}
    {x : PlacedServer} (h : compile d o = .ok c) (mem : x ∈ protocolServers .http d)
    {operation : String × Channel × Operation} (hop : operation ∈ d.operations o.role.outbound) :
    ∃ r ∈ c.app.resources, httpService d x operation ∈ r.data.services := by
  have able : sends d o.role .http = true := by
    have some : (protocolServers .http d).isEmpty = false :=
      List.isEmpty_eq_false_iff.2 (List.ne_nil_of_mem mem)
    have outbound : (d.operations o.role.outbound).isEmpty = false :=
      List.isEmpty_eq_false_iff.2 (List.ne_nil_of_mem hop)
    rw [sends, some, outbound]
    rfl
  have placed : httpService d x operation ∈ placedServices d o.role .http x :=
    List.mem_flatMap.2 ⟨_, List.mem_singleton_self _, List.mem_map_of_mem hop⟩
  refine ⟨Gateway.outbound Protocol.http.name
    ((protocolServers .http d).flatMap (placedServices d o.role .http)), ?_, ?_⟩
  · rw [(collects_of_compile h).resources]
    refine List.mem_flatMap.2 ⟨.http, Protocol.mem_all _, ?_⟩
    rw [resources_of_pass ((compile_eq_ok_iff.1 h).1 .http), if_pos able]
    exact List.mem_append_right _ List.mem_cons_self
  · exact List.mem_append_left _ (List.mem_flatMap.2 ⟨x, mem, placed⟩)

/-! ## Compilations -/

/-- What the settings of a server evaluate to under the properties of an application. -/
structure Compilation.ValuesOf (c : Compilation) (d : Document) (role : Role) (p : Protocol)
    (x : PlacedServer) : Prop where
  url : Evaluates c.app.valueOf? (endpointOf p d x).url (some (.text (urlValue x.1.2)))
  noPort : (endpointOf p d x).port = none ↔ (Template.ofPort x.1.2.url).isEmpty = true
  /-- The port is read as an integer, as far as its variables are declared. -/
  port : ∀ setting ∈ (endpointOf p d x).port,
    (∀ name ∈ (Template.ofPort x.1.2.url).variableNames,
      x.1.2.urlVariables.contains name = true) →
    Evaluates c.app.valueOf? setting ((portValue? x.1.2).map .integer)
  /-- Services of HTTP servers call the URL followed by the path, as far as it can be quoted. -/
  uri : p = .http → ∀ operation ∈ d.operations role.outbound,
    '\'' ∉ (channelPath x.1.2 operation.1).toList →
    (∃ r ∈ c.app.resources, httpService d x operation ∈ r.data.services) ∧
      ∃ setting, (httpService d x operation).settings.find? "uri" = some (.text setting) ∧
        Evaluates c.app.valueOf? setting
          (some (.text (urlValue x.1.2 ++ channelPath x.1.2 operation.1)))

/-- **Connections keep their meaning.**  If no property is in conflict with another, the URL of a
server whose variables are declared evaluates to its template with the defaults filled in, its port
to the integer of the port filled in, and the URL of an HTTP service to the URL followed by the
path. -/
theorem values_of_compile {d : Document} {o : Options} {c : Compilation} (h : compile d o = .ok c)
    (noConflict : ∀ k, .conflict k ∉ c.warnings) {p : Protocol} {x : PlacedServer}
    (mem : x ∈ protocolServers p d)
    (declared : ∀ name ∈ (Template.parse x.1.2.url).variableNames,
      x.1.2.urlVariables.contains name = true)
    (plain : PlainUrl x.1.2) : c.ValuesOf d o.role p x := by
  have connected := connected_of_compile h mem
  have bracket := bracket_notMem_serverLabel p x.2
  have value := value?_urlTerm h noConflict mem declared
  refine ⟨?_, ?_, fun setting hsetting declaredPort => ?_, fun http operation hop quote => ⟨?_, ?_⟩⟩
  · rw [connected.url, ← value]
    exact evaluates_setting (plain.urlTerm bracket) (joined_urlTerm _ _) _
  · rw [connected.port, Option.map_eq_none_iff, portTerm?]
    split_ifs <;> simp_all
  · rw [connected.port] at hsetting
    obtain ⟨t, ht, rfl⟩ := Option.map_eq_some_iff.1 hsetting
    rw [← value?_portTerm h noConflict mem declaredPort ht]
    exact evaluates_setting (plain.portTerm bracket ht) (joined_portTerm ht) _
  · subst http
    exact exists_resource_of_httpService h mem hop
  · subst http
    -- The URL of a service is a term of its own, in which that of the server is put as a part.
    have plainUri : (Term.concat [urlTerm (serverLabel .http x.2) x.1.2,
        .text (channelPath x.1.2 operation.1)]).Plain :=
      ⟨List.cons_ne_nil _ _, plain.urlTerm bracket, quote, trivial⟩
    have joinedUri : (Term.concat [urlTerm (serverLabel .http x.2) x.1.2,
        .text (channelPath x.1.2 operation.1)]).Joined :=
      ⟨le_rfl, joined_urlTerm _ _, trivial, trivial⟩
    have valueUri : (Term.concat [urlTerm (serverLabel .http x.2) x.1.2,
        .text (channelPath x.1.2 operation.1)]).value? c.app.valueOf? =
        some (.text (urlValue x.1.2 ++ channelPath x.1.2 operation.1)) := by
      rw [Term.value?, if_neg (by simp), Term.texts?, value]
      simp [Term.texts?, Term.value?, Value.text?_text, String.join]
    have sameUrl : (channelEndpoint x.1.2 (endpointOf .http d x) operation.1 operation.2.1
        operation.2.2).url = (urlTerm (serverLabel .http x.2) x.1.2).setting := connected.url
    refine ⟨_, find?_uri_service _, ?_⟩
    rw [uri_eq sameUrl, ← valueUri]
    exact evaluates_setting plainUri joinedUri _

/-! ## A server with variables -/

/-- A server whose URL and port are put together from variables. -/
def variableServer : Server :=
  { plainServer "web" "http://\x7bhost\x7d:80\x7bport\x7d/api" "http" with
    urlVariables := Dict.ofList
      [("host", { values := ["a.example", "b.example"], default := some "b.example" }),
        ("port", { default := some "80" })] }

/-- A document with this server alone. -/
def variableDocument : Document where
  asyncapi := "2.0.0"
  id := none
  info := { title := "variable", version := "1.0.0" }
  servers := .list [variableServer]
  channels := Dict.ofList [("door/\x7bid\x7d", plainChannel)]
  components := none

/-- A server whose URL has a variable, in a port with a fixed start: URL and port have the values
that its defaults give. -/
theorem variableDocument_values :
    ∃ c, compile variableDocument {} = .ok c ∧ (∀ k, .conflict k ∉ c.warnings) ∧
      c.ValuesOf variableDocument .server .http (("web", variableServer), 0) ∧
      Evaluates c.app.valueOf?
        (endpointOf .http variableDocument (("web", variableServer), 0)).url
        (some (.text "http://b.example:8080/api")) ∧
      (endpointOf .http variableDocument (("web", variableServer), 0)).port =
        some "=string.integer(string.concat('80', $property[http0_port]))" ∧
      Evaluates c.app.valueOf? "=string.integer(string.concat('80', $property[http0_port]))"
        (some (.integer 8080)) := by
  have outcome : (compile variableDocument {}).toOption.map (fun c => c.warnings.isEmpty) =
      some true := by decide +kernel
  obtain ⟨c, hc, silent⟩ := Trace.exists_ok_of_toOption outcome
  have noConflict : ∀ k, .conflict k ∉ c.warnings := by
    rw [List.isEmpty_iff.1 silent]
    exact fun k => List.not_mem_nil
  have servers : protocolServers .http variableDocument = [(("web", variableServer), 0)] := rfl
  have values := values_of_compile hc noConflict (p := .http) (x := (("web", variableServer), 0))
    (servers ▸ List.mem_cons_self) (by decide +kernel) ⟨by decide +kernel, by decide +kernel⟩
  have port : (endpointOf .http variableDocument (("web", variableServer), 0)).port =
      some "=string.integer(string.concat('80', $property[http0_port]))" := by decide +kernel
  have read : portValue? variableServer = some 8080 := by decide +kernel
  have url : urlValue variableServer = "http://b.example:8080/api" := by decide +kernel
  have integer := values.port _ port (by decide +kernel)
  rw [read] at integer
  exact ⟨c, hc, noConflict, values, url ▸ values.url, port, integer⟩

end EventGateway
