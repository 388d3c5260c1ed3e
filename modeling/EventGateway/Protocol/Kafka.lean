import EventGateway.Protocol.Tls
import EventGateway.Text.Template

/-!
# Kafka

Topics are written with points instead of slashes.
-/

namespace EventGateway.Kafka

open Flogo (Settings)

/-- What trigger and service share: brokers, credentials and trust store. -/
def connection (e : Endpoint) : Settings :=
  let base := (∅ : Settings).insert "brokerUrls" (.text e.url)
  let base :=
    if e.userPassword then
      base.insert "user" (.text Environment.user) |>.insert "password" (.text Environment.password)
    else base
  if e.secure then base.insert "trustStore" (.text Environment.trustStore) else base

/-- The settings of a trigger: the connection alone, since a topic belongs to its handler. -/
def trigger (e : Endpoint) : Settings :=
  connection e

/-- The settings of a handler: the topic, written with points, and what the channel says about
partitions and offset. -/
def handler (e : Endpoint) : Settings :=
  let base := (∅ : Settings).insert "topic" (.text (joinTopic '.' e.relativeTopic))
  match e.bindings.kafka with
  | none => base
  | some info =>
      base.insert? "partitions" (info.partitions.map .text)
        |>.insert? "offset" (info.offset.map .integer)

/-- The settings of a service: the connection and the topic, with parameters behind colons and
points between its parts. -/
def service (e : Endpoint) : Settings :=
  (connection e).insert "topic"
    (.text (joinTopic '.' (Text.Template.parse e.relativeTopic).colonParams))

end EventGateway.Kafka
