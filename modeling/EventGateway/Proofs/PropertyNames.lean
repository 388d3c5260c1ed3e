import EventGateway.Proofs.Composition
import EventGateway.Proofs.Connection

/-!
# Names of properties

The properties of a server are named after the variables of its URL, after positions in their lists
of values, and after the URL and the port.  The names of two servers are always apart.  Within a
server a name is used twice in one way only: a variable may be named like another one with a
position behind it, as `host_1` beside `host`.  The name then stands for a default and for a value,
and a compilation reports a conflict if these differ.

## Main statements

* `isConnectionProperty_of_mem` — the properties of a server, by what they are named after.
* `eq_of_name_eq` — properties of one name belong to one server.
* `eq_or_clash` — two properties of a server with one name.
* `propertyNames_of_compile` — when a conflict is reported, and which names hold which values.
-/

namespace EventGateway

open AsyncApi
open Flogo (Property Term)
open Text (Template)

/-! ## The properties of a server -/

/-- The name of a variable with a position behind it. -/
def numbered (name : String) (position : Nat) : String :=
  name ++ "_" ++ toString position

/-- A variable of a server has a value at a position, and the value is not the default. -/
def HasValue (s : Server) (name : String) (position : Nat) (value : String) : Prop :=
  ∃ v, s.urlVariables.find? name = some v ∧ v.values[position]? = some value ∧
    v.default ≠ some value

/-- The properties of a server by what they are named after: a variable with the position of a
value, a variable, the URL, or the port. -/
inductive IsConnectionProperty (label : String) (s : Server) : Property → Prop
  | value {name : String} {position : Nat} {value : String}
      (h : HasValue s name position value) :
      IsConnectionProperty label s (.string (propertyName label (numbered name position)) value)
  | default {name : String} (h : s.urlVariables.contains name = true) :
      IsConnectionProperty label s (.string (propertyName label name) (defaultOf s name))
  | url : IsConnectionProperty label s (.string (label ++ "URL") s.url)
  | port {n : Int} (h : Term.decimal? (Template.ofPort s.url).literalText = some n) :
      IsConnectionProperty label s (.integer (label ++ "Port") n)

/-- A number is written behind the name of a property. -/
theorem propertyName_numbered (label name : String) (position : Nat) :
    propertyName label (numbered name position) =
      propertyName label name ++ "_" ++ toString position := by
  simp only [propertyName, numbered, String.append_assoc]

/-- Each value of a variable is a property: the default under the plain name, the others numbered.
-/
theorem mem_valueProperties_iff {name : String} {default : Option String} {start : Nat}
    {values : List String} {q : Property} :
    q ∈ valueProperties name default start values ↔
      ∃ i value, values[i]? = some value ∧
        q = .string (if default = some value then name
          else name ++ "_" ++ toString (start + i)) value := by
  induction values generalizing start with
  | nil => simp [valueProperties]
  | cons first values ih =>
    rw [valueProperties, List.mem_cons, ih]
    constructor
    · rintro (rfl | ⟨i, value, found, rfl⟩)
      · exact ⟨0, first, rfl, rfl⟩
      · refine ⟨i + 1, value, found, ?_⟩
        rw [show start + (i + 1) = start + 1 + i by omega]
    · rintro ⟨i, value, found, rfl⟩
      cases i with
      | zero =>
        obtain rfl := Option.some.inj found
        exact .inl rfl
      | succ i =>
        refine .inr ⟨i, value, found, ?_⟩
        rw [show start + (i + 1) = start + 1 + i by omega]

section Properties

variable {label : String} {s : Server}

/-- The properties of a variable are named after it or after the positions of its values. -/
theorem isConnectionProperty_of_mem_variableProperties {name : String} {v : ServerVariable}
    (found : s.urlVariables.find? name = some v) {q : Property}
    (mem : q ∈ variableProperties (propertyName label name) v) :
    IsConnectionProperty label s q := by
  have declared : s.urlVariables.contains name = true := by
    rw [Dict.contains, found]
    rfl
  have value : v.default.getD "" = defaultOf s name := by
    rw [defaultOf, found, Option.bind_some]
  rcases List.mem_append.1 mem with mem | mem
  · obtain ⟨i, value', at_i, rfl⟩ := mem_valueProperties_iff.1 mem
    by_cases isDefault : v.default = some value'
    · rw [if_pos isDefault]
      rw [isDefault, Option.getD_some] at value
      rw [value]
      exact .default declared
    · rw [if_neg isDefault, Nat.zero_add, ← propertyName_numbered]
      exact .value ⟨v, found, at_i, isDefault⟩
  · split at mem
    · cases mem
    · obtain rfl := List.mem_singleton.1 mem
      rw [value]
      exact .default declared

/-- **The properties of a server** are named after its variables, the positions of their values, its
URL and its port. -/
theorem isConnectionProperty_of_mem {q : Property} (mem : q ∈ connectionProperties label s) :
    IsConnectionProperty label s q := by
  rcases List.mem_append.1 mem with mem | mem
  · rcases List.mem_append.1 mem with mem | mem
    · obtain ⟨⟨name, v⟩, entry, mem⟩ := List.mem_flatMap.1 mem
      exact isConnectionProperty_of_mem_variableProperties (Dict.find?_of_mem entry) mem
    · unfold urlProperties at mem
      split at mem
      · cases mem
      · obtain rfl := List.mem_singleton.1 mem
        exact .url
  · unfold portProperties at mem
    split at mem
    · cases mem
    · obtain ⟨n, hn, rfl⟩ := List.mem_map.1 mem
      exact .port (Option.mem_toList.1 hn)

/-- A value that is not the default is a property of its own. -/
theorem value_mem_connectionProperties {name : String} {position : Nat} {value : String}
    (h : HasValue s name position value) :
    .string (propertyName label (numbered name position)) value ∈
      connectionProperties label s := by
  obtain ⟨v, found, at_position, notDefault⟩ := h
  refine List.mem_append_left _ (List.mem_append_left _ (List.mem_flatMap.2
    ⟨(name, v), Dict.mem_of_find? found, List.mem_append_left _ ?_⟩))
  refine mem_valueProperties_iff.2 ⟨position, value, at_position, ?_⟩
  rw [if_neg notDefault, Nat.zero_add, propertyName_numbered]

/-! ## Names that are apart -/

/-- A text that starts with a letter does not start with a digit. -/
theorem isDigit_head_of_letter {text : String} {first : Char}
    (starts : text.toList.head? = some first) (letter : first.isDigit = false) :
    ∀ c ∈ text.toList.head?, c.isDigit = false := by
  intro c mem
  rw [starts] at mem
  obtain rfl := Option.some.inj mem
  exact letter

/-- The name of a property goes on behind the label of its server, and not with a digit. -/
theorem exists_name_eq {q : Property} (h : IsConnectionProperty label s q) :
    ∃ rest : String, q.name = label ++ rest ∧ ∀ c ∈ rest.toList.head?, c.isDigit = false := by
  have ofVariable : ∀ name : String, ∃ rest : String, propertyName label name = label ++ rest ∧
      ∀ c ∈ rest.toList.head?, c.isDigit = false := by
    intro name
    refine ⟨"_" ++ name, ?_, @isDigit_head_of_letter _ '_' ?_ rfl⟩
    · rw [propertyName, String.append_assoc]
    · rw [String.toList_append]
      rfl
  cases h with
  | value h => exact ofVariable _
  | default h => exact ofVariable _
  | url => exact ⟨"URL", rfl, @isDigit_head_of_letter _ 'U' rfl rfl⟩
  | port h => exact ⟨"Port", rfl, @isDigit_head_of_letter _ 'P' rfl rfl⟩

/-- The name of a property tells its variable. -/
theorem propertyName_inj {name name' : String}
    (h : propertyName label name = propertyName label name') : name = name' :=
  (String.append_right_inj _).1 h

/-- Neither the URL nor the port is named like a variable. -/
theorem propertyName_ne (name : String) {rest : String}
    (letter : rest.toList.head? ≠ some '_') : propertyName label name ≠ label ++ rest := by
  intro h
  rw [propertyName, String.append_assoc, String.append_right_inj] at h
  apply letter
  rw [← h, String.toList_append]
  rfl

/-- A value of a variable and the default of a variable that is named like it. -/
def Clash (label : String) (s : Server) (q q' : Property) : Prop :=
  ∃ name position value, HasValue s name position value ∧
    s.urlVariables.contains (numbered name position) = true ∧
    q = .string (propertyName label (numbered name position)) value ∧
    q' = .string (propertyName label (numbered name position))
      (defaultOf s (numbered name position))

/-- A value of a variable is determined by the name of its property. -/
theorem value_unique {name name' : String} {position position' : Nat}
    {value value' : String} (h : HasValue s name position value)
    (h' : HasValue s name' position' value')
    (same : numbered name position = numbered name' position') : value = value' := by
  obtain ⟨rfl, rfl⟩ := append_position_inj same
  obtain ⟨v, found, at_position, -⟩ := h
  obtain ⟨v', found', at_position', -⟩ := h'
  obtain rfl := Option.some.inj (found.symm.trans found')
  exact Option.some.inj (at_position.symm.trans at_position')

/-- **Two properties of a server with one name** are the same, or they are a value and a default
that clash. -/
theorem eq_or_clash {q q' : Property} (h : IsConnectionProperty label s q)
    (h' : IsConnectionProperty label s q') (same : q.name = q'.name) :
    q = q' ∨ Clash label s q q' ∨ Clash label s q' q := by
  -- A variable has an underscore behind the label, where URL and port have a letter.
  have url : ("URL" : String).toList.head? ≠ some '_' := by decide
  have port : ("Port" : String).toList.head? ≠ some '_' := by decide
  cases h with
  | value h =>
    cases h' with
    | value h' =>
      have names := propertyName_inj same
      exact .inl (by rw [names, value_unique h h' names])
    | default h' =>
      obtain rfl := propertyName_inj same
      exact .inr (.inl ⟨_, _, _, h, h', rfl, rfl⟩)
    | url => exact absurd same (propertyName_ne _ url)
    | port h' => exact absurd same (propertyName_ne _ port)
  | default h =>
    cases h' with
    | value h' =>
      obtain rfl := propertyName_inj same
      exact .inr (.inr ⟨_, _, _, h', h, rfl, rfl⟩)
    | default h' =>
      obtain rfl := propertyName_inj same
      exact .inl rfl
    | url => exact absurd same (propertyName_ne _ url)
    | port h' => exact absurd same (propertyName_ne _ port)
  | url =>
    cases h' with
    | value h' => exact absurd same.symm (propertyName_ne _ url)
    | default h' => exact absurd same.symm (propertyName_ne _ url)
    | url => exact .inl rfl
    | port h' => exact absurd ((String.append_right_inj _).1 same) (by decide)
  | port h =>
    cases h' with
    | value h' => exact absurd same.symm (propertyName_ne _ port)
    | default h' => exact absurd same.symm (propertyName_ne _ port)
    | url => exact absurd ((String.append_right_inj _).1 same) (by decide)
    | port h' =>
      obtain rfl := Option.some.inj (h.symm.trans h')
      exact .inl rfl

end Properties

/-! ## Servers that are apart -/

section Servers

variable {d : Document} {p p' : Protocol} {x x' : PlacedServer}

/-- A position of a document holds one server. -/
theorem eq_of_position_eq (mem : x ∈ protocolServers p d) (mem' : x' ∈ protocolServers p' d)
    (same : x.2 = x'.2) : x = x' := by
  have at_position : ∀ {p : Protocol} {x : PlacedServer}, x ∈ protocolServers p d →
      d.servers.servers[x.2]? = some x.1 := by
    intro p x mem
    exact List.mem_zipIdx_iff_getElem?.1 (List.mem_of_mem_filter mem)
  have first := at_position mem
  rw [same, at_position mem'] at first
  exact Prod.ext (Option.some.inj first).symm same

/-- **Properties of one name belong to one server.** -/
theorem eq_of_name_eq (mem : x ∈ protocolServers p d) (mem' : x' ∈ protocolServers p' d)
    {q q' : Property} (hq : q ∈ connectionProperties (serverLabel p x.2) x.1.2)
    (hq' : q' ∈ connectionProperties (serverLabel p' x'.2) x'.1.2) (same : q.name = q'.name) :
    p = p' ∧ x = x' := by
  obtain ⟨rest, eq, ends⟩ := exists_name_eq (isConnectionProperty_of_mem hq)
  obtain ⟨rest', eq', ends'⟩ := exists_name_eq (isConnectionProperty_of_mem hq')
  rw [eq, eq'] at same
  obtain ⟨protocols, positions, -⟩ := serverLabel_append_inj ends ends' same
  exact ⟨protocols, eq_of_position_eq mem mem' positions⟩

end Servers

/-! ## Collisions -/

/-- A value of a variable differs from the default of a variable that is named like it. -/
def AsyncApi.Server.Collides (s : Server) : Prop :=
  ∃ name position value, HasValue s name position value ∧
    s.urlVariables.contains (numbered name position) = true ∧
    defaultOf s (numbered name position) ≠ value

/-- No variable is named like a value of another one. -/
def AsyncApi.Server.NamedApart (s : Server) : Prop :=
  ∀ name position value, HasValue s name position value →
    s.urlVariables.contains (numbered name position) = false

/-- A property agrees with one text only. -/
theorem eq_of_agrees_string {kept : Property} {name name' value value' : String}
    (h : kept.agrees (.string name value) = true) (h' : kept.agrees (.string name' value') = true) :
    value = value' := by
  have text := Value.eq_text_of_same (Bool.and_eq_true_iff.1 h).2
  have text' := Value.eq_text_of_same (Bool.and_eq_true_iff.1 h').2
  have same := congrArg Value.text? (text.symm.trans text')
  exact Option.some.inj same

section Collisions

variable {d : Document} {p : Protocol} {x : PlacedServer}

/-- A server that collides has two properties of one name that do not agree with one another, so one
of them does not agree with the first one of that name. -/
theorem exists_disagreement_of_collides (mem : x ∈ protocolServers p d) (h : x.1.2.Collides) :
    ∃ q ∈ d.properties, ∃ kept,
      d.properties.find? (·.name == q.name) = some kept ∧ kept.agrees q = false := by
  obtain ⟨name, position, value, hasValue, declared, differ⟩ := h
  have value_mem : Property.string (propertyName (serverLabel p x.2) (numbered name position)) value
      ∈ d.properties :=
    Document.mem_properties_iff.2 ⟨p, x, mem, value_mem_connectionProperties hasValue⟩
  have default_mem : Property.string (propertyName (serverLabel p x.2) (numbered name position))
      (defaultOf x.1.2 (numbered name position)) ∈ d.properties :=
    Document.mem_properties_iff.2 ⟨p, x, mem, default_mem_connectionProperties declared⟩
  obtain ⟨kept, found⟩ := Document.exists_first value_mem
  by_cases agree : kept.agrees (.string (propertyName (serverLabel p x.2)
      (numbered name position)) value) = true
  · refine ⟨_, default_mem, kept, found, ?_⟩
    by_contra agree'
    exact differ (eq_of_agrees_string (Bool.not_eq_false _ ▸ agree') agree)
  · exact ⟨_, value_mem, kept, found, Bool.not_eq_true _ ▸ agree⟩

/-- A property and the first one of its name are properties of one server. -/
theorem isConnectionProperty_of_find? (mem : x ∈ protocolServers p d) {q kept : Property}
    (hq : q ∈ connectionProperties (serverLabel p x.2) x.1.2)
    (found : d.properties.find? (·.name == q.name) = some kept) :
    kept.name = q.name ∧ IsConnectionProperty (serverLabel p x.2) x.1.2 kept := by
  have same : kept.name = q.name := by
    have passes := List.find?_some found
    exact eq_of_beq passes
  obtain ⟨p', x', mem', hkept⟩ := Document.mem_properties_iff.1 (List.mem_of_find?_eq_some found)
  obtain ⟨rfl, rfl⟩ := eq_of_name_eq mem' mem hkept hq same
  exact ⟨same, isConnectionProperty_of_mem hkept⟩

/-- A server whose properties clash with different values collides. -/
theorem collides_of_clash {label : String} {s : Server} {q q' : Property} (h : Clash label s q q')
    (disagree : q.agrees q' = false ∨ q'.agrees q = false) : s.Collides := by
  obtain ⟨name, position, value, hasValue, declared, rfl, rfl⟩ := h
  refine ⟨name, position, value, hasValue, declared, fun same => ?_⟩
  rw [same, Property.agrees_refl] at disagree
  simp at disagree

/-- **A property that is not kept collides.** -/
theorem collides_of_disagreement (mem : x ∈ protocolServers p d) {q kept : Property}
    (hq : q ∈ connectionProperties (serverLabel p x.2) x.1.2)
    (found : d.properties.find? (·.name == q.name) = some kept) (disagree : kept.agrees q = false) :
    x.1.2.Collides := by
  obtain ⟨same, isProperty⟩ := isConnectionProperty_of_find? mem hq found
  rcases eq_or_clash isProperty (isConnectionProperty_of_mem hq) same with rfl | clash | clash
  · rw [Property.agrees_refl] at disagree
    cases disagree
  · exact collides_of_clash clash (.inl disagree)
  · exact collides_of_clash clash (.inr disagree)

/-- **A property of a server whose names are apart** is the first one of its name. -/
theorem find?_of_namedApart (apart : x.1.2.NamedApart) (mem : x ∈ protocolServers p d)
    {q : Property} (hq : q ∈ connectionProperties (serverLabel p x.2) x.1.2) :
    d.properties.find? (·.name == q.name) = some q := by
  obtain ⟨kept, found⟩ := Document.exists_first (Document.mem_properties_iff.2 ⟨p, x, mem, hq⟩)
  obtain ⟨same, isProperty⟩ := isConnectionProperty_of_find? mem hq found
  have noClash : ∀ r r', ¬ Clash (serverLabel p x.2) x.1.2 r r' := by
    rintro r r' ⟨name, position, value, hasValue, declared, -, -⟩
    rw [apart name position value hasValue] at declared
    cases declared
  rcases eq_or_clash isProperty (isConnectionProperty_of_mem hq) same with rfl | clash | clash
  · exact found
  · exact absurd clash (noClash _ _)
  · exact absurd clash (noClash _ _)

end Collisions

/-! ## Compilations -/

/-- Which names the properties of a compilation have, and when they are given twice. -/
structure Compilation.PropertyNames (c : Compilation) (d : Document) : Prop where
  /-- A conflict is reported if and only if a server collides. -/
  conflict : (∃ k, .conflict k ∈ c.warnings) ↔
    ∃ p, ∃ x ∈ protocolServers p d, x.1.2.Collides
  /-- If the names of a server are apart, that of a variable stands for its default. -/
  default : ∀ p, ∀ x ∈ protocolServers p d, x.1.2.NamedApart →
    ∀ name, x.1.2.urlVariables.contains name = true →
      c.app.property? (propertyName (serverLabel p x.2) name) =
        some (.string (propertyName (serverLabel p x.2) name) (defaultOf x.1.2 name))
  /-- The name of a variable with a position then stands for the value there. -/
  value : ∀ p, ∀ x ∈ protocolServers p d, x.1.2.NamedApart →
    ∀ name position value, HasValue x.1.2 name position value →
      c.app.property? (propertyName (serverLabel p x.2) (numbered name position)) =
        some (.string (propertyName (serverLabel p x.2) (numbered name position)) value)
  /-- Every property comes from connecting a server. -/
  source : ∀ q ∈ c.app.properties, ∃ p, ∃ x ∈ protocolServers p d,
    .property q ∈ (connection p d x).emitted
  /-- Properties of two servers never share a name. -/
  apart : ∀ p, ∀ x ∈ protocolServers p d, ∀ p', ∀ x' ∈ protocolServers p' d, ∀ q q',
    .property q ∈ (connection p d x).emitted → .property q' ∈ (connection p' d x').emitted →
      q.name = q'.name → p = p' ∧ x = x'

/-- **Names of properties collide in one way only.**  A conflict is reported if and only if a value
of a variable differs from the default of another variable that is named like it. -/
theorem propertyNames_of_compile {d : Document} {o : Options} {c : Compilation}
    (h : compile d o = .ok c) : c.PropertyNames d := by
  constructor
  case conflict =>
    rw [exists_conflict_iff h]
    constructor
    · rintro ⟨q, mem, kept, found, disagree⟩
      obtain ⟨p, x, mem, hq⟩ := Document.mem_properties_iff.1 mem
      exact ⟨p, x, mem, collides_of_disagreement mem hq found disagree⟩
    · rintro ⟨p, x, mem, collides⟩
      exact exists_disagreement_of_collides mem collides
  case default =>
    intro p x mem apart name declared
    rw [property?_of_compile h]
    exact find?_of_namedApart apart mem (default_mem_connectionProperties declared)
  case value =>
    intro p x mem apart name position value hasValue
    rw [property?_of_compile h]
    exact find?_of_namedApart apart mem (value_mem_connectionProperties hasValue)
  case source =>
    intro q mem
    rw [properties_of_compile h] at mem
    obtain ⟨p, x, mem, hq⟩ :=
      Document.mem_properties_iff.1 ((firstOfEach_sublist _ _ _).subset mem)
    exact ⟨p, x, mem, (property_mem_connection_iff h mem).2 hq⟩
  case apart =>
    intro p x mem p' x' mem' q q' hq hq' same
    exact eq_of_name_eq mem mem' ((property_mem_connection_iff h mem).1 hq)
      ((property_mem_connection_iff h mem').1 hq') same

/-! ## A server with a collision -/

/-- A variable with two values, the second of which is the default. -/
def hostVariable : ServerVariable :=
  { values := ["a.example", "b.example"], default := some "b.example" }

/-- A server with a variable that is named like the first value of another one. -/
def collidingServer : Server :=
  { plainServer "broker" "\x7bhost\x7d:9092" "kafka" with
    urlVariables := Dict.ofList
      [("host", hostVariable), ("host_0", { default := some "c.example" })] }

/-- A server with one variable. -/
def apartServer : Server :=
  { plainServer "web" "http://\x7bhost\x7d/" "http" with
    urlVariables := Dict.ofList [("host", hostVariable)] }

/-- A document with both servers. -/
def collidingDocument : Document where
  asyncapi := "2.0.0"
  id := none
  info := { title := "colliding", version := "1.0.0" }
  servers := .list [collidingServer, apartServer]
  channels := Dict.ofList [("/door", plainChannel)]
  components := none

theorem collides_collidingServer : collidingServer.Collides :=
  ⟨"host", 0, "a.example", ⟨hostVariable, rfl, rfl, by decide⟩, by decide +kernel,
    by decide +kernel⟩

theorem namedApart_apartServer : apartServer.NamedApart := by
  rintro name position value ⟨v, found, -, -⟩
  have only : ∀ {name : String} {v : ServerVariable},
      apartServer.urlVariables.find? name = some v → name = "host" := by
    intro name v found
    by_contra ne
    rw [show apartServer.urlVariables = (∅ : Dict ServerVariable).insert "host" hostVariable
      from rfl, Dict.find?_insert, if_neg ne] at found
    cases found
  obtain rfl := only found
  rw [Dict.contains, Option.isSome_eq_false_iff, Option.isNone_iff_eq_none,
    Option.eq_none_iff_forall_ne_some]
  intro w found'
  -- The two names differ in their lengths.
  have length := congrArg String.length (only found')
  rw [numbered, String.length_append, String.length_append] at length
  have short : "host".length + "_".length = "host".length + 1 := rfl
  omega

/-- Two servers, one of which collides: the other has all its properties, and the conflict is
reported. -/
theorem collidingDocument_propertyNames :
    ∃ c, compile collidingDocument {} = .ok c ∧ c.PropertyNames collidingDocument ∧
      collidingServer.Collides ∧ (∃ k, .conflict k ∈ c.warnings) ∧
      c.app.property? "http1_host" = some (.string "http1_host" "b.example") ∧
      c.app.property? "http1_host_0" = some (.string "http1_host_0" "a.example") := by
  have outcome : (compile collidingDocument {}).toOption.map (fun _ => ()) = some () := by
    decide +kernel
  obtain ⟨c, hc, -⟩ := Trace.exists_ok_of_toOption outcome
  have names := propertyNames_of_compile hc
  have broker : (("broker", collidingServer), 0) ∈ protocolServers .kafka collidingDocument :=
    List.mem_cons_self
  have web : (("web", apartServer), 1) ∈ protocolServers .http collidingDocument :=
    List.mem_cons_self
  have default := names.default .http _ web namedApart_apartServer "host" (by decide)
  have value := names.value .http _ web namedApart_apartServer "host" 0 "a.example"
    ⟨hostVariable, rfl, rfl, by decide⟩
  exact ⟨c, hc, names, collides_collidingServer,
    names.conflict.2 ⟨.kafka, _, broker, collides_collidingServer⟩, default, value⟩

end EventGateway
