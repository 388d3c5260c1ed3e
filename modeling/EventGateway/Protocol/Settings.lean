import EventGateway.Protocol.Eftl
import EventGateway.Protocol.Http
import EventGateway.Protocol.Kafka
import EventGateway.Protocol.Mqtt
import EventGateway.Protocol.Profile
import EventGateway.Protocol.WebSocket

/-!
# Settings by protocol

The settings of the trigger of a server, of the handler of an inbound channel and of the service of
an outbound channel.
-/

namespace EventGateway.Protocol

open Flogo (Settings)

/-- The settings of the trigger that receives the messages of a server. -/
def triggerSettings : Protocol → Endpoint → Settings
  | kafka => Kafka.trigger
  | eftl => Eftl.trigger
  | mqtt => Mqtt.trigger
  | ws => WebSocket.trigger
  | http => Http.trigger

/-- The settings of the handler of a channel from which messages are received. -/
def handlerSettings : Protocol → Endpoint → Settings
  | kafka => Kafka.handler
  | eftl => Eftl.handler
  | mqtt => Mqtt.handler
  | ws => WebSocket.handler
  | http => Http.handler

/-- The settings of the service that sends messages to a channel. -/
def serviceSettings : Protocol → Endpoint → Settings
  | kafka => Kafka.service
  | eftl => Eftl.service
  | mqtt => Mqtt.service
  | ws => WebSocket.service
  | http => Http.service

end EventGateway.Protocol
