import EventGateway.Json.Value

/-!
# AsyncAPI documents

The parts of an AsyncAPI document that a compilation reads: servers, channels with their operations,
and the types of security schemes.  Servers and channel parameters come in two layouts, a list whose
entries may carry a name and a map under names.
-/

namespace EventGateway.AsyncApi

/-- Entries in a list, or in a map under their names. -/
inductive Layout (α : Type) where
  | list (entries : List α)
  | map (entries : Dict α)

namespace Layout

variable {α : Type}

/-- How many items there are. -/
def size : Layout α → Nat
  | list entries => entries.length
  | map entries => entries.size

/-- Whether there are no items. -/
def isEmpty (l : Layout α) : Bool :=
  l.size == 0

end Layout

/-- What is known about the application. -/
structure Info where
  title : String := ""
  version : String := ""
  description : Option String := none

/-- A variable in the URL of a server. -/
structure ServerVariable where
  /-- The values it may have. -/
  values : List String := []
  default : Option String := none
  description : Option String := none

/-- A server. -/
structure Server where
  name : Option String
  /-- The URL, a template. -/
  url : String
  /-- The identifier of the protocol, plain or secure. -/
  protocol : String
  protocolVersion : Option String
  description : Option String
  urlVariables : Dict ServerVariable
  /-- Security requirements: names of schemes with their scopes. -/
  security : List (Dict (List String))
  /-- What is put before channel names that do not start with a slash. -/
  baseChannel : Option String
  /-- All other fields. -/
  extensions : Dict Value

/-- A parameter in the name of a channel. -/
structure Parameter where
  name : Option String
  description : Option String
  schema : Option Value
  /-- All other fields. -/
  extensions : Dict Value

/-- What is done with the messages of a channel in one direction. -/
structure Operation where
  operationId : Option String
  summary : Option String
  description : Option String
  /-- Binding information, by protocol. -/
  protocolInfo : Option Value
  message : Option Value

/-- The two directions of a channel: messages that flow into the application that the document
describes, and messages that it sends. -/
inductive Direction where
  | subscribe
  | publish
deriving DecidableEq, Repr

namespace Direction

/-- The name of a direction in a document. -/
def name : Direction → String
  | subscribe => "subscribe"
  | publish => "publish"

end Direction

/-- A channel: a topic or a route. -/
structure Channel where
  description : Option String
  parameters : Layout Parameter
  subscribe : Option Operation
  publish : Option Operation

/-- The operation of a channel in a direction. -/
def Channel.operation? (c : Channel) : Direction → Option Operation
  | .subscribe => c.subscribe
  | .publish => c.publish

/-- Definitions that other parts refer to. -/
structure Components where
  securitySchemes : Dict Value

/-- A document. -/
structure Document where
  /-- The version of AsyncAPI. -/
  asyncapi : String
  id : Option String
  info : Info
  servers : Layout Server
  channels : Dict Channel
  components : Option Components

/-- Pairs each item with its position and a name: its own one, or else its position. -/
def nameByPosition {α : Type} (name? : α → Option String) (position : Nat) :
    List α → List (String × α)
  | [] => []
  | a :: as => ((name? a).getD (toString position), a) :: nameByPosition name? (position + 1) as

/-- Servers with their names, in the order in which they are compiled.  A server in a list is named
by its own name or else by its position. -/
def Layout.servers : Layout Server → List (String × Server)
  | list entries => nameByPosition Server.name 0 entries
  | map entries => entries.entries

/-- Parameters with their names.  A parameter in a list that has no name is left out. -/
def Layout.parameters : Layout Parameter → List (String × Parameter)
  | list entries => entries.filterMap fun p => p.name.map (·, p)
  | map entries => entries.entries

namespace Document

/-- The name of the application: the identifier of the document, or else its title. -/
def appName (d : Document) : String :=
  match d.id with
  | some id => if id.isEmpty then d.info.title else id
  | none => d.info.title

/-- The type of a security scheme. -/
def schemeType? (d : Document) (scheme : String) : Option String := do
  let components ← d.components
  let definition ← components.securitySchemes.find? scheme
  let members ← definition.members?
  (← members.find? "type").text?

/-- Whether some security requirement of a server asks for user and password. -/
def usesUserPassword (d : Document) (s : Server) : Bool :=
  s.security.any fun requirement => requirement.keys.any fun scheme =>
    d.schemeType? scheme == some "userPassword"

end Document

end EventGateway.AsyncApi
