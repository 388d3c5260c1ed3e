import EventGateway.Flogo.App
import EventGateway.Protocol.Endpoint

/-!
# WebSocket

Messages are only received, and the URL is all that matters.
-/

namespace EventGateway.WebSocket

open Flogo (Settings)

/-- The settings of a trigger: the URL. -/
def trigger (e : Endpoint) : Settings :=
  (∅ : Settings).insert "url" (.text e.url)

/-- A handler has no settings. -/
def handler (_ : Endpoint) : Settings :=
  ∅

/-- A service has no settings; none is ever made, since no module sends messages. -/
def service (_ : Endpoint) : Settings :=
  ∅

end EventGateway.WebSocket
