import EventGateway.AsyncApi.Codec
import EventGateway.Proofs.Records

/-!
# Reading documents back

A document that has been read from a JSON value is written as a JSON value from which the same
document is read.  This is not so for every document: one whose extensions had the name of a
declared field, or where null stood for a free-form part that is set, would be read back as another
one.  No reader makes such documents (`Yields`), because declared fields never end up among the
extensions and null is read as a part that is not set.

The other direction needs no such care.  Both layouts, explicit nulls for what is not set, and the
texts of scalars are read back from every draft that spells them (`Reads`).

## Main statements

* `AsyncApi.Document.yields` — what is read from a JSON value is proper.
* `AsyncApi.Document.reads` — a proper document is read from every draft that spells it.
* `AsyncApi.Document.document_reads_back` — both together.
-/

namespace EventGateway

namespace AsyncApi

/-! ## Proper documents -/

/-- No extension has the name of a declared field. -/
def ExtensionsApart (declared : List Field) (extensions : Dict Value) : Prop :=
  ∀ k ∈ extensions.keys, declared.any (·.hasName k) = false

namespace Layout

variable {α : Type}

/-- All entries have some property. -/
def All (P : α → Prop) : Layout α → Prop
  | list entries => ∀ a ∈ entries, P a
  | map entries => ∀ e ∈ entries.entries, P e.2

theorem All.imp {P Q : α → Prop} {l : Layout α} (h : l.All P) (imp : ∀ a, P a → Q a) : l.All Q := by
  cases l with
  | list entries => exact fun a mem => imp a (h a mem)
  | map entries => exact fun e mem => imp e.2 (h e mem)

/-- Reading a layout yields items as its reader does. -/
theorem yields {read : Draft → Option α} {P : α → Prop} (yields : Yields read P) :
    Yields (ofDraft? read) (All P) := by
  intro d value l h
  unfold ofDraft? at h
  split at h
  · split at h
    · obtain ⟨as, found, rfl⟩ := Option.map_eq_some_iff.1 h
      exact yields.listOf _ value as found
    · obtain ⟨dict, found, rfl⟩ := Option.map_eq_some_iff.1 h
      exact yields.dictOf _ value dict found
    · cases h
  · cases h

end Layout

/-- What is set is not null, and extensions are no fields. -/
structure Parameter.Proper (p : Parameter) : Prop where
  schema : p.schema ≠ some .null
  extensions : ExtensionsApart fields p.extensions

/-- An operation that is read never holds a `null` where it could hold nothing. -/
structure Operation.Proper (o : Operation) : Prop where
  protocolInfo : o.protocolInfo ≠ some .null
  message : o.message ≠ some .null

/-- The parts of a channel are as they are read. -/
structure Channel.Proper (c : Channel) : Prop where
  parameters : c.parameters.All Parameter.Proper
  subscribe : ∀ o ∈ c.subscribe, o.Proper
  publish : ∀ o ∈ c.publish, o.Proper

/-- All parts of a document are as a reader leaves them. -/
structure Document.Proper (d : Document) : Prop where
  servers : d.servers.All fun s => ExtensionsApart Server.fields s.extensions
  channels : ∀ e ∈ d.channels.entries, e.2.Proper

/-- Parameters are read with extensions apart from their fields. -/
theorem Parameter.yields : Yields ofDraft? Proper := by
  intro d value p h
  obtain ⟨⟨r, extensions⟩, record, h⟩ := Option.bind_eq_some_iff.1 h
  obtain ⟨parts, apart⟩ := value.openRecord record
  simp only [Option.pure_def, Option.bind_eq_bind, Option.bind_eq_some_iff, Option.some.injEq] at h
  obtain ⟨_, -, _, -, schema, read, rfl⟩ := h
  exact ⟨parts.optional_ne_null read, apart⟩

/-- Operations are read without `null`. -/
theorem Operation.yields : Yields ofDraft? Proper := by
  intro d value o h
  obtain ⟨r, record, h⟩ := Option.bind_eq_some_iff.1 h
  have parts := value.record record
  simp only [Option.pure_def, Option.bind_eq_bind, Option.bind_eq_some_iff, Option.some.injEq] at h
  obtain ⟨_, -, _, -, _, -, info, readInfo, message, readMessage, rfl⟩ := h
  exact ⟨parts.optional_ne_null readInfo, parts.optional_ne_null readMessage⟩

/-- The parts of channels are read as parts. -/
theorem Channel.yields : Yields ofDraft? Proper := by
  intro d value c h
  obtain ⟨r, record, h⟩ := Option.bind_eq_some_iff.1 h
  have parts := value.record record
  simp only [Option.pure_def, Option.bind_eq_bind, Option.bind_eq_some_iff, Option.some.injEq] at h
  obtain ⟨_, -, _, readParameters, _, readSubscribe, _, readPublish, rfl⟩ := h
  exact ⟨parts.withDefault readParameters (Layout.yields Parameter.yields) nofun,
    parts.optional readSubscribe Operation.yields, parts.optional readPublish Operation.yields⟩

/-- Servers are read with extensions apart from their fields. -/
theorem Server.yields : Yields ofDraft? fun s => ExtensionsApart fields s.extensions := by
  intro d value s h
  obtain ⟨⟨r, extensions⟩, record, h⟩ := Option.bind_eq_some_iff.1 h
  simp only [Option.pure_def, Option.bind_eq_bind, Option.bind_eq_some_iff, Option.some.injEq] at h
  obtain ⟨_, -, _, -, _, -, _, -, _, -, _, -, _, -, _, -, rfl⟩ := h
  exact (value.openRecord record).2

/-- **What is read from a JSON value is proper.** -/
theorem Document.yields : Yields ofDraft? Proper := by
  intro d value document h
  obtain ⟨r, record, h⟩ := Option.bind_eq_some_iff.1 h
  have parts := value.record record
  simp only [Option.pure_def, Option.bind_eq_bind, Option.bind_eq_some_iff, Option.some.injEq] at h
  obtain ⟨_, -, _, -, _, -, servers, readServers, channels, readChannels, _, -, rfl⟩ := h
  have listed := parts.withDefault readServers (Layout.yields Server.yields) nofun
  have under := parts.withDefault readChannels Channel.yields.dictOf
    fun _ mem => absurd mem List.not_mem_nil
  exact ⟨listed, under⟩

/-! ## Reading back -/

/-- The name of a declared field is not among the extensions. -/
theorem ExtensionsApart.notMem {declared : List Field} {extensions : Dict Value}
    (apart : ExtensionsApart declared extensions) :
    ∀ f ∈ declared, f.name ∉ extensions.keys := by
  intro f mem listed
  have named : f.hasName f.name = true := by simp [Field.hasName]
  have other := List.any_eq_false.1 (apart f.name listed) f mem
  exact other named

/-- Fields and extensions that are apart make a regular object. -/
theorem regular_extended {declared : List Field} {extensions : Dict Value}
    (apart : ExtensionsApart declared extensions) {members : List (String × Json)}
    (fields : members.map Prod.fst = declared.map Field.name)
    (distinct : (declared.map Field.name).Nodup) (regular : ∀ m ∈ members, m.2.Regular) :
    (Json.object (members ++ Value.memberList extensions)).Regular := by
  have keys : (Value.memberList extensions).map Prod.fst = extensions.keys :=
    Dict.keys_map Value.json extensions
  refine Json.regular_object.2 ⟨?_, List.forall_mem_append.2 ⟨regular, ?_⟩⟩
  · rw [List.map_append, keys, fields]
    refine List.nodup_append.2 ⟨distinct, extensions.nodup_keys, ?_⟩
    rintro name mem _ listed rfl
    obtain ⟨f, isField, rfl⟩ := List.mem_map.1 mem
    exact apart.notMem f isField listed
  · exact (Json.regular_object.1 (Value.object extensions).regular).2

section Optional

variable {r : Record} {members : List (String × Json)}

/-- A text that may be missing is read back. -/
theorem reads_optionalText (fields : r.Spells members) (name : String) {text : Option String}
    (found : members.lookup name = some (optionalText text)) :
    r.optional name Draft.text? = some text :=
  fields.optional name found fun s _ => ⟨nofun, reads_text s⟩

/-- A free-form part is read back, unless null stands for it. -/
theorem reads_optionalValue (fields : r.Spells members) (name : String) {value : Option Value}
    (found : members.lookup name = some (optionalValue value)) (set : value ≠ some .null) :
    r.optional name Draft.value? = some value := by
  refine fields.optional name found fun v mem => ⟨?_, reads_value v⟩
  intro null
  exact set (mem.trans (congrArg some (Value.ext null)))

@[simp] theorem regular_optionalText (text : Option String) : (optionalText text).Regular :=
  Json.regular_ofOption fun s _ => Json.regular_text s

@[simp] theorem regular_optionalValue (value : Option Value) : (optionalValue value).Regular :=
  Json.regular_ofOption fun v _ => v.regular

end Optional

namespace Layout

variable {α : Type} {read : Draft → Option α} {write : α → Json}

/-- **Both layouts are read back** as what they are. -/
theorem reads {l : Layout α} (entries : l.All fun a => Reads read (write a) a) :
    Reads (ofDraft? read) (l.toJson write) l := by
  intro d spelled
  unfold ofDraft?
  rw [if_pos (Draft.isReadable_of_spells _ spelled)]
  cases l with
  | list as =>
    have found := Reads.listOf entries d spelled
    obtain ⟨parts, rfl, -⟩ := Draft.spells_list.1 spelled
    exact congrArg (Option.map list) found
  | map dict =>
    have found := Reads.dictOf entries d spelled
    obtain ⟨parts, _, rfl, -⟩ := Draft.spells_object.1 spelled
    exact congrArg (Option.map map) found

/-- A layout of regular items is regular. -/
theorem regular {l : Layout α} (entries : l.All fun a => (write a).Regular) :
    (l.toJson write).Regular := by
  cases l with
  | list as =>
    refine Json.regular_list.2 fun item mem => ?_
    obtain ⟨a, listed, rfl⟩ := List.mem_map.1 mem
    exact entries a listed
  | map dict => exact Json.regular_dict entries

end Layout

/-! ### Server variables -/

namespace ServerVariable

variable {r : Record} {members : List (String × Json)}

/-- Texts are scalars that stand for themselves. -/
theorem mapM_scalarText (texts : List String) :
    (texts.map Value.text).mapM scalarText = .ok texts := by
  induction texts with
  | nil => rfl
  | cons text texts ih =>
    rw [List.map_cons, List.mapM_cons, ih]
    rfl

/-- The values of a variable are read back. -/
theorem readValues_eq (parts : r.Spells members) {texts : List String}
    (found : members.lookup "enum" = some (.ofTexts texts)) : readValues r = .ok texts := by
  have items : Reads (Draft.listOf? Draft.value?) (.list ((texts.map Value.text).map Value.json))
      (texts.map Value.text) :=
    .listOf fun v _ => reads_value v
  rw [List.map_map] at items
  rw [readValues, parts.withDefault "enum" found items]
  exact mapM_scalarText texts

/-- The default of a variable is read back. -/
theorem readDefault_eq (parts : r.Spells members) {default : Option String}
    (found : members.lookup "default" = some (.ofOption .text default)) :
    readDefault r = .ok default := by
  have written : Json.ofOption .text default = .ofOption Value.json (default.map Value.text) := by
    cases default <;> rfl
  have set : default.map Value.text ≠ some .null := by
    cases default with
    | none => nofun
    | some text => exact fun eq => nomatch congrArg Value.json (Option.some.inj eq)
  rw [readDefault, reads_optionalValue parts "default" (found.trans (congrArg some written)) set]
  cases default <;> rfl

/-- **A variable is read back.** -/
theorem reads (v : ServerVariable) : Reads ofDraft? v.toJson v := by
  intro d spelled
  obtain ⟨r, record, parts⟩ := spelled.record fields (by decide) (.refl _)
  have values : readValues r = .ok v.values := readValues_eq parts rfl
  have default : readDefault r = .ok v.default := readDefault_eq parts rfl
  have text : r.optional "description" Draft.text? = some v.description :=
    reads_optionalText parts "description" rfl
  have description : readDescription r = .ok v.description := by rw [readDescription, text]; rfl
  obtain ⟨entries, _, rfl, -⟩ := Draft.spells_object.1 spelled
  show ((orShape ((Draft.map (entries.map Draft.keyed)).record? fields)).bind fun r =>
    (readDefault r).bind fun default => (readDescription r).bind fun description =>
      (readValues r).bind fun values =>
        Except.ok (ServerVariable.mk values default description)).toOption = _
  simp only [record, orShape, Except.bind, default, description, values]
  rfl

end ServerVariable

@[simp] theorem regular_texts (texts : List String) : (Json.ofTexts texts).Regular := by
  simp [Json.ofTexts]

/-- A variable is written with distinct names. -/
theorem ServerVariable.regular (v : ServerVariable) : v.toJson.Regular := by
  have default : (Json.ofOption Json.text v.default).Regular := regular_optionalText v.default
  have description : (Json.ofOption Json.text v.description).Regular :=
    regular_optionalText v.description
  simp [toJson, default, description]

/-! ### Servers -/

/-- A list of texts is read back. -/
theorem reads_texts (texts : List String) :
    Reads (Draft.listOf? Draft.text?) (.ofTexts texts) texts :=
  .listOf fun s _ => reads_text s

namespace Server

theorem reads {s : Server} (apart : ExtensionsApart fields s.extensions) :
    Reads ofDraft? s.toJson s := by
  intro d spelled
  obtain ⟨r, record, parts⟩ := spelled.openRecord fields (by decide) (.refl _) apart
  have name := reads_optionalText parts "name" rfl
  have url := parts.required "url" rfl (reads_text s.url)
  have protocol := parts.required "protocol" rfl (reads_text s.protocol)
  have protocolVersion := reads_optionalText parts "protocolVersion" rfl
  have description := reads_optionalText parts "description" rfl
  have urlVariables := parts.withDefault "variables" rfl (.dictOf fun v _ => v.2.reads)
  have requirement : ∀ x ∈ s.security, Reads requirement? (dictToJson Json.ofTexts x) x :=
    fun x _ => .dictOf fun scopes _ => reads_texts scopes.2
  have security := parts.withDefault "security" rfl (.listOf requirement)
  have baseChannel := reads_optionalText parts "baseChannel" rfl
  simp [ofDraft?, record, name, url, protocol, protocolVersion, description, urlVariables, security,
    baseChannel]

theorem regular {s : Server} (apart : ExtensionsApart fields s.extensions) :
    s.toJson.Regular := by
  have urlVariables : (dictToJson ServerVariable.toJson s.urlVariables).Regular :=
    Json.regular_dict fun v _ => v.2.regular
  have requirement : ∀ x ∈ s.security, (dictToJson Json.ofTexts x).Regular :=
    fun x _ => Json.regular_dict fun scopes _ => regular_texts scopes.2
  exact regular_extended apart rfl (by decide) (by simpa [urlVariables] using requirement)

end Server

/-! ### Channels -/

namespace Parameter

theorem reads {p : Parameter} (proper : p.Proper) : Reads ofDraft? p.toJson p := by
  intro d spelled
  obtain ⟨r, record, parts⟩ := spelled.openRecord fields (by decide) (.refl _) proper.extensions
  have name := reads_optionalText parts "name" rfl
  have description := reads_optionalText parts "description" rfl
  have schema := reads_optionalValue parts "schema" rfl proper.schema
  simp [ofDraft?, record, name, description, schema]

theorem regular {p : Parameter} (proper : p.Proper) : p.toJson.Regular :=
  regular_extended proper.extensions rfl (by decide) (by simp)

end Parameter

namespace Operation

theorem reads {o : Operation} (proper : o.Proper) : Reads ofDraft? o.toJson o := by
  intro d spelled
  obtain ⟨r, record, parts⟩ := spelled.record fields (by decide) (.refl _)
  have operationId := reads_optionalText parts "operationId" rfl
  have summary := reads_optionalText parts "summary" rfl
  have description := reads_optionalText parts "description" rfl
  have protocolInfo := reads_optionalValue parts "protocolInfo" rfl proper.protocolInfo
  have message := reads_optionalValue parts "message" rfl proper.message
  simp [ofDraft?, record, operationId, summary, description, protocolInfo, message]

-- Null in a part that is set would be lost.
example : ofDraft? (.ofJson (toJson ⟨none, none, none, none, some .null⟩)) =
    some ⟨none, none, none, none, none⟩ := rfl

theorem regular (o : Operation) : o.toJson.Regular := by
  simp [toJson]

end Operation

namespace Channel

theorem reads {c : Channel} (proper : c.Proper) : Reads ofDraft? c.toJson c := by
  intro d spelled
  obtain ⟨r, record, parts⟩ :=
    spelled.record ["description", "parameters", "subscribe", "publish"] (by decide) (.refl _)
  have description := reads_optionalText parts "description" rfl
  have parameters := parts.withDefault "parameters" rfl
    (Layout.reads (proper.parameters.imp fun _ => Parameter.reads))
  have subscribe := parts.optional "subscribe" rfl fun o mem =>
    ⟨nofun, Operation.reads (proper.subscribe o mem)⟩
  have publish := parts.optional "publish" rfl fun o mem =>
    ⟨nofun, Operation.reads (proper.publish o mem)⟩
  simp [ofDraft?, record, description, parameters, subscribe, publish]

theorem regular {c : Channel} (proper : c.Proper) : c.toJson.Regular := by
  have parameters : (c.parameters.toJson Parameter.toJson).Regular :=
    Layout.regular (proper.parameters.imp fun _ => Parameter.regular)
  have operation : ∀ o : Option Operation, (Json.ofOption Operation.toJson o).Regular :=
    fun o => Json.regular_ofOption fun x _ => x.regular
  simp [toJson, parameters, operation]

end Channel

/-! ### Documents -/

theorem Info.reads (i : Info) : Reads ofDraft? i.toJson i := by
  intro d spelled
  obtain ⟨r, record, parts⟩ := spelled.record ["title", "version", "description"] (by decide)
    (.refl _)
  have title := parts.withDefault "title" rfl (reads_text i.title)
  have version := parts.withDefault "version" rfl (reads_text i.version)
  have description := reads_optionalText parts "description" rfl
  simp [ofDraft?, record, title, version, description]

theorem Info.regular (i : Info) : i.toJson.Regular := by
  simp [toJson]

theorem Components.reads (c : Components) : Reads ofDraft? c.toJson c := by
  intro d spelled
  obtain ⟨r, record, parts⟩ := spelled.record ["securitySchemes"] (by decide) (.refl _)
  have securitySchemes := parts.withDefault "securitySchemes" rfl
    (.dictOf fun (e : String × Value) _ => reads_value e.2)
  simp [ofDraft?, record, securitySchemes]

theorem Components.regular (c : Components) : c.toJson.Regular := by
  have securitySchemes : (dictToJson Value.json c.securitySchemes).Regular :=
    Json.regular_dict fun e _ => e.2.regular
  simp [toJson, securitySchemes]

namespace Document

/-- **A proper document is read back** from every draft that spells it. -/
theorem reads {document : Document} (proper : document.Proper) :
    Reads ofDraft? document.toJson document := by
  intro d spelled
  obtain ⟨r, record, parts⟩ := spelled.record
    ["asyncapi", "id", "info", "servers", "channels", "components"] (by decide) (.refl _)
  have asyncapi := parts.withDefault "asyncapi" rfl (reads_text document.asyncapi)
  have id := reads_optionalText parts "id" rfl
  have info := parts.withDefault "info" rfl document.info.reads
  have servers := parts.withDefault "servers" rfl
    (Layout.reads (proper.servers.imp fun _ => Server.reads))
  have channels := parts.withDefault "channels" rfl
    (.dictOf fun e mem => Channel.reads (proper.channels e mem))
  have components := parts.optional "components" rfl fun c _ => ⟨nofun, c.reads⟩
  simp [ofDraft?, record, asyncapi, id, info, servers, channels, components]

/-- A document is written with distinct names and finite numbers. -/
theorem regular {document : Document} (proper : document.Proper) :
    document.toJson.Regular := by
  have servers : (document.servers.toJson Server.toJson).Regular :=
    Layout.regular (proper.servers.imp fun _ => Server.regular)
  have channels : (dictToJson Channel.toJson document.channels).Regular :=
    Json.regular_dict fun e mem => Channel.regular (proper.channels e mem)
  have components : (Json.ofOption Components.toJson document.components).Regular :=
    Json.regular_ofOption fun c _ => c.regular
  simp [toJson, document.info.regular, servers, channels, components]

/-- The JSON value that a document is serialized to. -/
def value? (document : Document) : Option Value :=
  (Draft.ofJson document.toJson).value?

/-- **A document survives serialization.**  What has been read from a JSON value is serialized to a
JSON value from which the same document is read; and it has no extension with the name of a declared
field. -/
theorem document_reads_back {w : Value} {document : Document}
    (h : ofDraft? (.ofValue w) = some document) :
    (∃ v, document.value? = some v ∧ ofDraft? (.ofValue v) = some document) ∧
      ofDraft? (.ofJson document.toJson) = some document ∧
      (document.servers.All fun s => ∀ f ∈ Server.fields, f.name ∉ s.extensions.keys) ∧
      ∀ c ∈ document.channels.entries, c.2.parameters.All fun p =>
        ∀ f ∈ Parameter.fields, f.name ∉ p.extensions.keys := by
  have proper := Document.yields _ ⟨w, rfl⟩ _ h
  have reads := Document.reads proper
  obtain ⟨v, found, spelled⟩ := Draft.exists_value_spells document.toJson (regular proper)
  refine ⟨⟨v, found, reads _ spelled⟩, reads _ (Draft.spells_ofJson _), ?_, fun c mem => ?_⟩
  · exact proper.servers.imp fun _ apart => apart.notMem
  · exact (proper.channels c mem).parameters.imp fun _ proper => proper.extensions.notMem

end Document

/-- A document with a server in a list and a parameter in a map, with numbers and booleans where
texts are expected, with null among the extensions, and with binding information under its other
name. -/
def looseValue : Value :=
  .object (.ofList [
    ("asyncapi", .text "2.0.0"),
    ("servers", .list [.object (.ofList [
      ("url", .text "\x7bhost\x7d:\x7bport\x7d"), ("protocol", .text "mqtt"),
      ("variables", .object (.ofList [("port", .object (.ofList [
        ("enum", .list [.integer 1883, .bool true]), ("default", .integer 1883)]))])),
      ("x-store", .null), ("x-note", .list [.null, .integer 7])])]),
    ("channels", .object (.ofList [("rooms/\x7broom\x7d", .object (.ofList [
      ("parameters", .object (.ofList [("room", .object (.ofList [("x-multilevel", .null)]))])),
      ("subscribe", .object (.ofList [("bindings", .object (.ofList [
        ("flogo-mqtt", .null)]))]))]))]))])

/-- A value with an alias, extensions and a `null`, which is read back once it has been read. -/
theorem looseValue_reads_back :
    ∃ document v, Document.ofDraft? (.ofValue looseValue) = some document ∧
      document.value? = some v ∧ Document.ofDraft? (.ofValue v) = some document := by
  have readable : (Document.ofDraft? (.ofValue looseValue)).isSome = true := by decide +kernel
  obtain ⟨document, read⟩ := Option.isSome_iff_exists.1 readable
  obtain ⟨⟨v, found, again⟩, -⟩ := Document.document_reads_back read
  exact ⟨document, v, read, found, again⟩

end AsyncApi

end EventGateway
