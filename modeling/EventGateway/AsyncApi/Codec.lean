import EventGateway.AsyncApi.Variable

/-!
# Documents as JSON

Every part of a document is written as an object with all its declared fields, null for one that is
not set; the extensions of servers and parameters stand beside the declared fields.  Reading accepts
the fields in any order and takes the default for one that is missing.  Only servers and parameters
keep fields that are not declared.
-/

namespace EventGateway.AsyncApi

/-- A text, or null. -/
def optionalText : Option String → Json :=
  .ofOption .text

/-- A free-form value, or null. -/
def optionalValue : Option Value → Json :=
  .ofOption Value.json

/-- A dictionary as an object. -/
def dictToJson {α : Type} (f : α → Json) (d : Dict α) : Json :=
  .object (d.map f).entries

namespace Layout

variable {α : Type}

/-- A list stays a list and a map an object. -/
def toJson (f : α → Json) : Layout α → Json
  | list entries => .list (entries.map f)
  | map entries => dictToJson f entries

/-- Reads either layout.  No part may be unreadable, not even one that nobody would read. -/
def ofDraft? (read : Draft → Option α) (d : Draft) : Option (Layout α) :=
  if d.isReadable then
    match d with
    | .list _ => (d.listOf? read).map list
    | .map _ => (d.dictOf? read).map map
    | _ => none
  else none

end Layout

namespace Info

/-- What is known about the application, as JSON. -/
def toJson (i : Info) : Json :=
  .object [("title", .text i.title), ("version", .text i.version),
    ("description", optionalText i.description)]

/-- Reads what is known about the application; title and version may be missing. -/
def ofDraft? (d : Draft) : Option Info := do
  let r ← d.record? ["title", "version", "description"]
  return {
    title := ← r.withDefault "title" "" Draft.text?
    version := ← r.withDefault "version" "" Draft.text?
    description := ← r.optional "description" Draft.text? }

end Info

namespace Server

/-- The declared fields of a server. -/
def fields : List Field :=
  ["name", "url", "protocol", "protocolVersion", "description", "variables", "security",
    "baseChannel"]

/-- A server as JSON.  Security and variables that are empty are written, extensions follow as they
are. -/
def toJson (s : Server) : Json :=
  .object ([("name", optionalText s.name), ("url", .text s.url), ("protocol", .text s.protocol),
    ("protocolVersion", optionalText s.protocolVersion),
    ("description", optionalText s.description),
    ("variables", dictToJson ServerVariable.toJson s.urlVariables),
    ("security", .list (s.security.map (dictToJson Json.ofTexts))),
    ("baseChannel", optionalText s.baseChannel)]
    ++ Value.memberList s.extensions)

/-- Reads a security requirement. -/
def requirement? : Draft → Option (Dict (List String)) :=
  Draft.dictOf? (Draft.listOf? Draft.text?)

/-- Reads a server.  Names that are not known are kept as extensions. -/
def ofDraft? (d : Draft) : Option Server := do
  let (r, extensions) ← d.openRecord? fields
  return {
    name := ← r.optional "name" Draft.text?
    url := ← r.required "url" Draft.text?
    protocol := ← r.required "protocol" Draft.text?
    protocolVersion := ← r.optional "protocolVersion" Draft.text?
    description := ← r.optional "description" Draft.text?
    urlVariables := ← r.withDefault "variables" ∅ (Draft.dictOf? ServerVariable.ofDraft?)
    security := ← r.withDefault "security" [] (Draft.listOf? requirement?)
    baseChannel := ← r.optional "baseChannel" Draft.text?
    extensions }

end Server

namespace Parameter

/-- The declared fields of a parameter. -/
def fields : List Field :=
  ["name", "description", "schema"]

/-- A parameter as JSON, with its extensions at the end. -/
def toJson (p : Parameter) : Json :=
  .object ([("name", optionalText p.name), ("description", optionalText p.description),
    ("schema", optionalValue p.schema)] ++ Value.memberList p.extensions)

/-- Reads a parameter.  Names that are not known are kept as extensions. -/
def ofDraft? (d : Draft) : Option Parameter := do
  let (r, extensions) ← d.openRecord? fields
  return {
    name := ← r.optional "name" Draft.text?
    description := ← r.optional "description" Draft.text?
    schema := ← r.optional "schema" Draft.value?
    extensions }

end Parameter

namespace Operation

/-- The fields of an operation; its binding information has two names. -/
def fields : List Field :=
  ["operationId", "summary", "description", ⟨"protocolInfo", ["bindings"]⟩, "message"]

/-- An operation as JSON. -/
def toJson (o : Operation) : Json :=
  .object [("operationId", optionalText o.operationId), ("summary", optionalText o.summary),
    ("description", optionalText o.description), ("protocolInfo", optionalValue o.protocolInfo),
    ("message", optionalValue o.message)]

/-- Reads an operation.  Binding information may be given under either of two names. -/
def ofDraft? (d : Draft) : Option Operation := do
  let r ← d.record? fields
  return {
    operationId := ← r.optional "operationId" Draft.text?
    summary := ← r.optional "summary" Draft.text?
    description := ← r.optional "description" Draft.text?
    protocolInfo := ← r.optional "protocolInfo" Draft.value?
    message := ← r.optional "message" Draft.value? }

end Operation

namespace Channel

/-- A channel as JSON; an operation that is missing is `null`. -/
def toJson (c : Channel) : Json :=
  .object [("description", optionalText c.description),
    ("parameters", c.parameters.toJson Parameter.toJson),
    ("subscribe", .ofOption Operation.toJson c.subscribe),
    ("publish", .ofOption Operation.toJson c.publish)]

/-- Reads a channel; its parameters may be a list or a map. -/
def ofDraft? (d : Draft) : Option Channel := do
  let r ← d.record? ["description", "parameters", "subscribe", "publish"]
  return {
    description := ← r.optional "description" Draft.text?
    parameters := ← r.withDefault "parameters" (.list []) (Layout.ofDraft? Parameter.ofDraft?)
    subscribe := ← r.optional "subscribe" Operation.ofDraft?
    publish := ← r.optional "publish" Operation.ofDraft? }

end Channel

namespace Components

/-- The components of a document as JSON. -/
def toJson (c : Components) : Json :=
  .object [("securitySchemes", dictToJson Value.json c.securitySchemes)]

/-- Reads the components of a document, of which only security schemes matter. -/
def ofDraft? (d : Draft) : Option Components := do
  let r ← d.record? ["securitySchemes"]
  return { securitySchemes := ← r.withDefault "securitySchemes" ∅ (Draft.dictOf? Draft.value?) }

end Components

namespace Document

/-- A document as JSON. -/
def toJson (d : Document) : Json :=
  .object [("asyncapi", .text d.asyncapi), ("id", optionalText d.id), ("info", d.info.toJson),
    ("servers", d.servers.toJson Server.toJson), ("channels", dictToJson Channel.toJson d.channels),
    ("components", .ofOption Components.toJson d.components)]

/-- Reads a document.  Everything may be missing here; what must be there is checked afterwards. -/
def ofDraft? (d : Draft) : Option Document := do
  let r ← d.record? ["asyncapi", "id", "info", "servers", "channels", "components"]
  return {
    asyncapi := ← r.withDefault "asyncapi" "" Draft.text?
    id := ← r.optional "id" Draft.text?
    info := ← r.withDefault "info" {} Info.ofDraft?
    servers := ← r.withDefault "servers" (.list []) (Layout.ofDraft? Server.ofDraft?)
    channels := ← r.withDefault "channels" ∅ (Draft.dictOf? Channel.ofDraft?)
    components := ← r.optional "components" Components.ofDraft? }

end Document

end EventGateway.AsyncApi
