import EventGateway.Protocol.Tls
import EventGateway.Text.Template

/-!
# MQTT

A handler subscribes to a topic with wildcards: a parameter that stands for several levels is marked
with `#`, any other with `+`.
-/

namespace EventGateway.Mqtt

open Flogo (Settings)

/-- Adds user and password, if the server asks for them. -/
def addCredentials (e : Endpoint) (settings : Settings) : Settings :=
  if e.userPassword then
    settings.insert "username" (.text Environment.user)
      |>.insert "password" (.text Environment.password)
  else settings

/-- The settings of a trigger: broker, credentials and the options of the server.  What the TLS
policy says stands in one block, and only for a secure server. -/
def trigger (e : Endpoint) : Settings :=
  let ext := e.extensions
  let base := (∅ : Settings).insert "id" (.text e.id) |>.insert "broker" (.text e.url)
  let base := addCredentials e base
    |>.insert? "store" ((ext.store.filter fun store => !store.isEmpty).map .text)
    |>.insert? "cleanSession" (ext.cleanSession.map .bool)
    |>.insert? "keepAlive" (ext.keepAlive.map .number)
    |>.insert? "autoReconnect" (ext.autoReconnect.map .bool)
  if e.secure then (TlsPolicy.resolve ext.skipVerify ext.useSystemCert).addNested base else base

/-- A parameter as a wildcard. -/
def wildcard (e : Endpoint) (name : String) : String :=
  if ((e.parameter? name).map (·.isMultilevel)).getD false then "#" ++ name else "+" ++ name

/-- The settings of a handler: the topic with wildcards, and what the channel says about the reply
topic and the quality of service. -/
def handler (e : Endpoint) : Settings :=
  let topic := (Text.Template.parse e.relativeTopic).render (wildcard e)
  let base := (∅ : Settings).insert "topic" (.text topic)
  match e.bindings.mqtt with
  | none => base
  | some info =>
      base.insert? "replyTopic" (info.replyTopic.map .text)
        |>.insert? "qos" (info.qos.map .integer)

/-- The settings of a service.  Unlike those of a trigger, its options come from the channel and its
TLS flags stand beside the certificates. -/
def service (e : Endpoint) : Settings :=
  let info := e.bindings.mqtt.getD {}
  let base := (∅ : Settings)
    |>.insert "id" (.text (e.id ++ "_" ++ e.topic))
    |>.insert "broker" (.text e.url)
    |>.insert "topic" (.text (Text.Template.parse e.relativeTopic).colonParams)
  let base := addCredentials e base
    |>.insert? "store" (info.store.map .text)
    |>.insert? "cleanSession" (info.cleanSession.map .bool)
    |>.insert? "qos" (info.qos.map .integer)
  if e.secure then (TlsPolicy.resolve info.skipVerify info.useSystemCert).addFlat base else base

end EventGateway.Mqtt
