import EventGateway.Proofs.Composition
import EventGateway.Proofs.Connection

/-!
# References to properties

The settings of a connection refer to properties by their names.  A name in the URL of a server has
its property, or a warning says that its variable is not declared.  The port is a part of the URL
that is cut out at a colon, and its variables are not looked at again: what stands behind a colon in
the name of a variable becomes a variable of its own, and nobody is warned about it.

## Main statements

* `portVariables_of_url` — the port has no variables that the URL does not have, unless a colon
  stands in the name of one.
* `references_of_compile` — which names the URL and the port of a server refer to.
* `not_every_reference_is_covered` — a compilation without warnings whose port refers to a property
  that the application does not have.
-/

namespace EventGateway

open AsyncApi
open Flogo (Property Term)
open Text (Template)

/-! ## Variables of the port -/

/-- A name belongs to a variable of the URL of a server.  So connecting the URL looks at it: the
variable is declared, or the server is warned about it. -/
def IsChecked (label server : String) (s : Server) (name : String) : Prop :=
  ∃ v ∈ (Template.parse s.url).variableNames, name = propertyName label v ∧
    (s.urlVariables.contains v = true ∨
      .warning (.undeclaredVariable server v) ∈ (connectUrl label server s).emitted)

/-- What the port of a server refers to is a property of its own, or it is checked with the URL. -/
structure PortIsChecked (label server : String) (s : Server) : Prop where
  /-- A port with variables can always be connected. -/
  connects : (Template.ofPort s.url).hasVariable = true →
    ∃ port, (connectPort label s).result = .ok port
  setting : ∀ port, (connectPort label s).result = .ok port →
    port = (portTerm? label s).map Term.setting
  names : ∀ port, (connectPort label s).result = .ok port → ∀ t ∈ portTerm? label s,
    ∀ n ∈ t.names, (∃ value, .property (.integer n value) ∈ (connectPort label s).emitted) ∨
      IsChecked label server s n

/-- A variable of a URL is a property, or it is reported. -/
theorem isChecked_of_mem {label : String} {s : Server} {v : String}
    (mem : v ∈ (Template.parse s.url).variableNames) (server : String) :
    IsChecked label server s (propertyName label v) := by
  refine ⟨v, mem, rfl, (declared_or_mem_undeclaredVariables mem).imp_right fun undeclared => ?_⟩
  rw [connectUrl_eq]
  exact List.mem_append_left _ (List.mem_map_of_mem (List.mem_map_of_mem undeclared))

/-- A port whose variables are among those of the URL is checked with it. -/
theorem portIsChecked_of_subset {s : Server}
    (known : (Template.ofPort s.url).variableNames ⊆ (Template.parse s.url).variableNames)
    (label server : String) : PortIsChecked label server s := by
  refine ⟨fun hasVariable => ?_, fun port hport => ?_, fun port hport t ht n hn => ?_⟩
  · obtain ⟨name, mem⟩ := Template.hasVariable_ofPort.1 hasVariable
    have nonempty := Template.isEmpty_of_mem_variableNames mem
    simp only [connectPort, nonempty, hasVariable]
    exact ⟨_, rfl⟩
  · have connected := (connectPort_of_ok hport).1
    rw [connected] at hport
    exact (Except.ok.inj hport).symm
  · obtain ⟨connected, literalPort⟩ := connectPort_of_ok hport
    rcases portTerm?_cases ht with ⟨varies, rfl⟩ | ⟨nonempty, literal, rfl, -⟩
    · rw [Term.names, Term.names_ofTemplate varies] at hn
      obtain ⟨v, mem, rfl⟩ := List.mem_map.1 hn
      exact .inr (isChecked_of_mem (known mem) server)
    · obtain rfl := List.mem_singleton.1 hn
      obtain ⟨value, read⟩ := literalPort nonempty literal
      refine .inl ⟨value, ?_⟩
      rw [connected]
      exact List.mem_map_of_mem (by simp [portProperties, nonempty, literal, read])

/-- **The port has no variables that the URL does not have**, unless a colon stands in the name of
one.  So whatever the port of a server refers to is checked with the URL. -/
theorem portVariables_of_url (url : String) :
    ((Template.ofPort url).hasVariable = true → (Template.parse url).hasVariable = true) ∧
    ((∀ name ∈ (Template.parse url).variableNames, ':' ∉ name.toList) →
      (Template.ofPort url).variableNames <:+: (Template.parse url).variableNames ∧
      ∀ (label server : String) (s : Server), s.url = url → PortIsChecked label server s) := by
  obtain ⟨names, inside, cases⟩ := Template.variableNames_ofPort url
  refine ⟨fun hasVariable => ?_, fun noColon => ?_⟩
  · obtain ⟨name, mem⟩ := Template.hasVariable_ofPort.1 hasVariable
    rcases Template.mem_variableNames_of_ofPort mem with whole | ⟨start, longer⟩
    · exact Template.hasVariable_parse.2 ⟨name, whole⟩
    · exact Template.hasVariable_parse.2 ⟨_, longer⟩
  · have contiguous :
        (Template.ofPort url).variableNames <:+: (Template.parse url).variableNames := by
      rcases cases with eq | ⟨start, first, rest, -, rfl⟩
      · exact eq ▸ inside
      · exact absurd (by simp) (noColon _ (inside.subset List.mem_cons_self))
    refine ⟨contiguous, fun label server s eq => portIsChecked_of_subset ?_ label server⟩
    rw [eq]
    exact contiguous.subset

/-- A server with two variables in its port, of which one is not declared. -/
def splitPortServer : Server :=
  { plainServer "broker" "mqtt://\x7buser\x7d@\x7bhost\x7d:\x7bbase\x7d\x7bport\x7d/\x7bpath\x7d"
      "mqtt" with
    urlVariables := Dict.ofList [("base", { default := some "18" })] }

/-- A URL with variables before, in and after its port. -/
theorem splitPortServer_portVariables :
    (Template.ofPort splitPortServer.url).hasVariable = true ∧
    (Template.parse splitPortServer.url).hasVariable = true ∧
    (∀ name ∈ (Template.parse splitPortServer.url).variableNames, ':' ∉ name.toList) ∧
    (Template.parse splitPortServer.url).variableNames = ["user", "host", "base", "port", "path"] ∧
    (Template.ofPort splitPortServer.url).variableNames = ["base", "port"] ∧
    ["base", "port"] <:+: ["user", "host", "base", "port", "path"] ∧
    PortIsChecked "mqtt0" "broker" splitPortServer := by
  have all : (Template.parse splitPortServer.url).variableNames =
      ["user", "host", "base", "port", "path"] := by decide +kernel
  have port : (Template.ofPort splitPortServer.url).variableNames = ["base", "port"] := by
    decide +kernel
  have hasVariable : (Template.ofPort splitPortServer.url).hasVariable = true := by
    rw [Template.hasVariable_ofPort, port]
    exact ⟨"base", by decide⟩
  have noColon : ∀ name ∈ (Template.parse splitPortServer.url).variableNames,
      ':' ∉ name.toList := by
    rw [all]
    decide
  obtain ⟨some, contained⟩ := portVariables_of_url splitPortServer.url
  obtain ⟨contiguous, checked⟩ := contained noColon
  rw [all, port] at contiguous
  exact ⟨hasVariable, some hasVariable, noColon, all, port, contiguous,
    checked "mqtt0" "broker" splitPortServer rfl⟩

/-! ## References of a compilation -/

/-- A name has its property, or it is that of a variable about which a server is warned. -/
def Compilation.Covers (c : Compilation) (label server name : String) : Prop :=
  name ∈ c.app.properties.map Property.name ∨
    ∃ v, name = propertyName label v ∧ .undeclaredVariable server v ∈ c.warnings

/-- What the settings of a server refer to. -/
structure Compilation.CoversServer (c : Compilation) (label name : String) (s : Server)
    (e : Endpoint) : Prop where
  url : e.url = (urlTerm label s).setting
  urlNames : ∀ n ∈ (urlTerm label s).names, c.Covers label name n
  port : e.port = (portTerm? label s).map Term.setting
  /-- A name in the port is covered, or its variable ends one of the URL, behind a colon. -/
  portNames : ∀ t ∈ portTerm? label s, ∀ n ∈ t.names, c.Covers label name n ∨
    ∃ start v, n = propertyName label v ∧ start ++ ":" ++ v ∈ (Template.parse s.url).variableNames

section Compilations

variable {d : Document} {o : Options} {c : Compilation} {p : Protocol} {x : PlacedServer}

/-- A property of a connection is among those of the application. -/
theorem covers_of_property (h : compile d o = .ok c) (mem : x ∈ protocolServers p d)
    {q : Property} (hq : q ∈ connectionProperties (serverLabel p x.2) x.1.2) :
    c.Covers (serverLabel p x.2) x.1.1 q.name :=
  .inl (name_mem_of_compile h mem hq)

/-- The property of a variable of the URL exists, or its server is warned about the variable. -/
theorem covers_of_variable (h : compile d o = .ok c) (mem : x ∈ protocolServers p d) {v : String}
    (hv : v ∈ (Template.parse x.1.2.url).variableNames) :
    c.Covers (serverLabel p x.2) x.1.1 (propertyName (serverLabel p x.2) v) := by
  rcases declared_or_mem_undeclaredVariables hv with declared | undeclared
  · exact covers_of_property h mem (default_mem_connectionProperties declared)
  · exact .inr ⟨v, rfl, warning_mem_of_compile h mem (List.mem_map_of_mem undeclared)⟩

/-- **References of a connection.**  Every name in the URL of a server has its property or is warned
about, and so is every name in its port that does not come from the end of a variable of the URL. -/
theorem references_of_compile (h : compile d o = .ok c) (mem : x ∈ protocolServers p d) :
    c.CoversServer (serverLabel p x.2) x.1.1 x.1.2 (endpointOf p d x) := by
  have connected := connected_of_compile h mem
  refine ⟨connected.url, fun n hn => ?_, connected.port, fun t ht n hn => ?_⟩
  · rcases urlTerm_cases (serverLabel p x.2) x.1.2 with
      ⟨varies, term⟩ | ⟨-, term, stored⟩ <;> rw [term] at hn
    · rw [Term.names_ofTemplate varies] at hn
      obtain ⟨v, hv, rfl⟩ := List.mem_map.1 hn
      exact covers_of_variable h mem hv
    · obtain rfl := List.mem_singleton.1 hn
      exact covers_of_property h mem stored
  · rcases portTerm?_cases ht with ⟨varies, rfl⟩ | ⟨nonempty, literal, rfl, stored⟩
    · rw [Term.names, Term.names_ofTemplate varies] at hn
      obtain ⟨v, hv, rfl⟩ := List.mem_map.1 hn
      rcases Template.mem_variableNames_of_ofPort hv with whole | ⟨start, longer⟩
      · exact .inl (covers_of_variable h mem whole)
      · exact .inr ⟨start, v, rfl, longer⟩
    · obtain rfl := List.mem_singleton.1 hn
      obtain ⟨port, read⟩ := connected.literalPort nonempty literal
      exact .inl (covers_of_property h mem (stored port read))

end Compilations

/-! ## A reference without a property -/

/-- A server whose URL is one variable, for host and port. -/
def combinedServer : Server :=
  { plainServer "web" "\x7bhost:port\x7d" "http" with
    urlVariables := Dict.ofList [("host:port", { default := some "web.example:8080" })] }

/-- A document with this server alone. -/
def combinedDocument : Document where
  asyncapi := "2.0.0"
  id := none
  info := { title := "combined", version := "1.0.0" }
  servers := .list [combinedServer]
  channels := Dict.ofList [("/door", plainChannel)]
  components := none

theorem compile_combinedDocument :
    ∃ c, compile combinedDocument {} = .ok c ∧
      c.app.properties.map Property.name = ["http0_host:port"] ∧ c.warnings = [] := by
  have outcome : (compile combinedDocument {}).toOption.map
      (fun c => (c.app.properties.map Property.name, c.warnings.isEmpty)) =
      some (["http0_host:port"], true) := by decide +kernel
  obtain ⟨c, hc, eq⟩ := Trace.exists_ok_of_toOption outcome
  obtain ⟨names, warnings⟩ := Prod.mk.inj eq
  exact ⟨c, hc, names, List.isEmpty_iff.1 warnings⟩

theorem mem_protocolServers_combinedDocument :
    (("web", combinedServer), 0) ∈ protocolServers .http combinedDocument := by
  have servers : protocolServers .http combinedDocument = [(("web", combinedServer), 0)] := rfl
  rw [servers]
  exact List.mem_cons_self

theorem portTerm?_combinedServer :
    portTerm? "http0" combinedServer = some (.integer (.property "http0_port")) := by
  rfl

/-- A port variable with a colon in it: the port refers to a property that is neither there nor
reported. -/
theorem combinedDocument_references :
    ∃ c, compile combinedDocument {} = .ok c ∧
      (("web", combinedServer), 0) ∈ protocolServers .http combinedDocument ∧
      c.CoversServer "http0" "web" combinedServer
        (endpointOf .http combinedDocument (("web", combinedServer), 0)) := by
  obtain ⟨c, hc, -⟩ := compile_combinedDocument
  have mem := mem_protocolServers_combinedDocument
  exact ⟨c, hc, mem, references_of_compile hc mem⟩

/-- **The port may refer to a property that does not exist**, and no warning says so. -/
theorem not_every_reference_is_covered :
    ¬ ∀ (d : Document) (o : Options) (c : Compilation) (p : Protocol) (x : PlacedServer)
        (t : Term) (n : String), compile d o = .ok c → x ∈ protocolServers p d →
      (t = urlTerm (serverLabel p x.2) x.1.2 ∨ portTerm? (serverLabel p x.2) x.1.2 = some t) →
      n ∈ t.names → c.Covers (serverLabel p x.2) x.1.1 n := by
  intro all
  obtain ⟨c, hc, names, warnings⟩ := compile_combinedDocument
  have covered := all combinedDocument {} c .http (("web", combinedServer), 0)
    (.integer (.property "http0_port")) "http0_port" hc mem_protocolServers_combinedDocument
    (.inr portTerm?_combinedServer) List.mem_cons_self
  rcases covered with stored | ⟨v, -, warned⟩
  · rw [names] at stored
    exact absurd stored (by decide)
  · rw [warnings] at warned
    cases warned

end EventGateway
