import EventGateway.AsyncApi.Codec
import EventGateway.Fault
import EventGateway.Json.Reader
import EventGateway.Text.Blank
import EventGateway.Yaml.Shape

/-!
# Reading documents

A document is a JSON text if its first character that is not blank is a brace, and a YAML text
otherwise.  Servers and parameters may have two layouts, so a YAML text tells only by their values
what they are; everywhere else the document says which type is expected.
-/

namespace EventGateway.AsyncApi

open Yaml (Shape)

/-- What is expected of the parts of a document in a YAML text. -/
def Info.shape : Shape :=
  .record [("title", .text), ("version", .text), ("description", .optional .text)]

/-- The shape of an operation. -/
def Operation.shape : Shape :=
  .record [("operationId", .optional .text), ("summary", .optional .text),
    ("description", .optional .text), ("protocolInfo", .optional .free),
    ("bindings", .optional .free), ("message", .optional .free)]

/-- The shape of a channel.  Its parameters are a list or a map, which no shape can tell. -/
def Channel.shape : Shape :=
  .record [("description", .optional .text), ("parameters", .loose),
    ("subscribe", .optional Operation.shape), ("publish", .optional Operation.shape)]

/-- The shape of the components. -/
def Components.shape : Shape :=
  .record [("securitySchemes", .entries .free)]

namespace Document

/-- The shape of a document. -/
def shape : Shape :=
  .record [("asyncapi", .text), ("id", .optional .text), ("info", Info.shape), ("servers", .loose),
    ("channels", .entries Channel.shape), ("components", .optional Components.shape)]

/-- Whether a text is read as JSON. -/
def isJson (text : String) : Bool :=
  (Text.trimStart text.toList).head? == some '{'

/-- Reads a document without asking for the version of AsyncAPI. -/
def ofText (text : String) : Except Fault Document :=
  if isJson text then ((Json.read? text).bind ofDraft?).elim (.error .documentNotJson) .ok
  else ((shape.readText? text).bind ofDraft?).elim (.error .documentNotYaml) .ok

/-- Reads a document, which has to give the version of AsyncAPI. -/
def read (text : String) : Except Fault Document := do
  let d ← ofText text
  if d.asyncapi.isEmpty then throw .asyncapiMissing else return d

end Document

end EventGateway.AsyncApi
