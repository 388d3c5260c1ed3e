import EventGateway.AsyncApi.BindingInfo
import EventGateway.AsyncApi.Extensions

/-!
# Endpoints

An endpoint is a server as it is seen from one operation of one channel: everything from which the
settings of a trigger, a handler or a service are made.  Credentials and certificates are no part of
it, they are always references to the environment in which the application runs.
-/

namespace EventGateway

open AsyncApi

/-! ## References to the environment -/

namespace Environment

/-- The user that the application runs for. -/
def user : String := "=$env[USER]"

/-- The password of this user. -/
def password : String := "=$env[PASSWORD]"

/-- The certificates that are trusted. -/
def trustStore : String := "=$env[TRUST_STORE]"

/-- The certificate that the application shows. -/
def certFile : String := "=$env[CERT_FILE]"

/-- The key of this certificate. -/
def keyFile : String := "=$env[KEY_FILE]"

end Environment

/-- A server, seen from an operation of a channel. -/
structure Endpoint where
  /-- The plain identifier of the protocol. -/
  protocol : String
  /-- The position of the server in its document. -/
  serverIndex : Nat
  /-- Whether the secure variant of the protocol is spoken. -/
  secure : Bool := false
  /-- Whether the server asks for user and password. -/
  userPassword : Bool := false
  /-- The expression of the URL. -/
  url : String
  /-- The expression of the port, if the URL has one. -/
  port : Option String := none
  extensions : ServerExtensions := {}
  /-- The parameters of the channel. -/
  parameters : List ChannelParameter := []
  /-- The topic or path; it starts with a slash. -/
  topic : String := "/"
  bindings : OperationBindings := {}

namespace Endpoint

/-- The topic without the slash at its start. -/
def relativeTopic (e : Endpoint) : String :=
  match e.topic.toList with
  | '/' :: rest => String.ofList rest
  | _ => e.topic

/-- A parameter of the channel. -/
def parameter? (e : Endpoint) (name : String) : Option ChannelParameter :=
  e.parameters.find? (·.name == name)

/-- The plain identifier with the position of the server. -/
def id (e : Endpoint) : String :=
  e.protocol ++ toString e.serverIndex

end Endpoint

/-- The segments of a topic, joined by another character than the slash. -/
def joinTopic (delimiter : Char) (topic : String) : String :=
  String.ofList (topic.toList.map fun c => if c = '/' then delimiter else c)

end EventGateway
