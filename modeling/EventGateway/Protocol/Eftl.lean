import EventGateway.Protocol.Tls

/-!
# eFTL

Destinations are written with underscores instead of slashes.
-/

namespace EventGateway.Eftl

open Flogo (Settings)

/-- Adds what trigger and service share: URL, credentials and trust store. -/
def addConnection (e : Endpoint) (settings : Settings) : Settings :=
  let base := settings.insert "url" (.text e.url)
  let base :=
    if e.userPassword then
      base.insert "user" (.text Environment.user) |>.insert "password" (.text Environment.password)
    else base
  if e.secure then base.insert "ca" (.text Environment.trustStore) else base

/-- The name of a topic as a destination. -/
def destination (e : Endpoint) : String :=
  joinTopic '_' e.relativeTopic

/-- The settings of a trigger: an identifier and the connection. -/
def trigger (e : Endpoint) : Settings :=
  addConnection e ((∅ : Settings).insert "id" (.text e.id))

/-- The settings of a handler: the destination to listen to. -/
def handler (e : Endpoint) : Settings :=
  (∅ : Settings).insert "dest" (.text (destination e))

/-- The settings of a service: the connection, under an identifier made of protocol and topic, and
the destination. -/
def service (e : Endpoint) : Settings :=
  (addConnection e ((∅ : Settings).insert "id" (.text (e.protocol ++ e.topic)))).insert
    "dest" (.text (destination e))

end EventGateway.Eftl
