import EventGateway.Protocol.Tls
import EventGateway.Text.Template

/-!
# HTTP

A trigger listens on a port, and a service calls the URL of the server followed by the path of the
channel.
-/

namespace EventGateway.Http

open Flogo (Settings)

/-- The path of the channel, with parameters behind colons. -/
def path (e : Endpoint) : String :=
  (Text.Template.parse e.topic).colonParams

/-- The port of a trigger: that of the URL, or else the one of the protocol. -/
def port (e : Endpoint) : Value :=
  match e.port with
  | some expression => .text expression
  | none => .integer (if e.secure then 443 else 80)

/-- The settings of a trigger: the port to listen on, and for a secure server the files of its
certificate. -/
def trigger (e : Endpoint) : Settings :=
  let base := (∅ : Settings).insert "port" (port e)
  if e.secure then
    base.insert "enableTLS" (.bool true)
      |>.insert "certFile" (.text Environment.certFile)
      |>.insert "keyFile" (.text Environment.keyFile)
  else base

/-- The settings of a handler: the path, and the method if the channel names one. -/
def handler (e : Endpoint) : Settings :=
  (∅ : Settings).insert "path" (.text (path e))
    |>.insert? "method" ((e.bindings.http.bind (·.method)).map .text)

/-- An expression without the equals sign that marks it as one. -/
def expressionBody (expression : String) : String :=
  match expression.toList with
  | '=' :: rest => String.ofList rest
  | _ => expression

/-- The expression of the URL followed by the path. -/
def uri (e : Endpoint) : String :=
  "=string.concat(" ++ expressionBody e.url ++ ", '" ++ path e ++ "')"

/-- The settings of a service: the URI to call and what the channel says about the request.  The TLS
flags stand beside the certificates. -/
def service (e : Endpoint) : Settings :=
  let info := e.bindings.http.getD {}
  let base := (∅ : Settings).insert "uri" (.text (uri e))
    |>.insert? "method" (info.method.map .text)
    |>.insert? "headers" (info.headers.map fun headers => .object (headers.map .text))
    |>.insert? "proxy" (info.proxy.map .text)
    |>.insert? "timeout" (info.timeout.map .integer)
  if e.secure then (TlsPolicy.resolve info.skipVerify info.useSystemCert).addFlat base else base

end EventGateway.Http
