import EventGateway.Compile.Context
import EventGateway.Protocol.Profile

/-!
# Microgateways

Messages that arrive for a protocol go through one microgateway that logs them and invokes a method
of the support code. The services of a protocol that send messages are put into another one behind
an endpoint of its own, to which others post what is to be sent.
-/

namespace EventGateway.Gateway

open Flogo

/-- The module that runs resources. -/
def microgatewayRef : String := "github.com/project-flogo/microgateway"

/-- The module that writes a line to the log. -/
def logRef : String := "github.com/project-flogo/contrib/activity/log"

/-- The module that calls a method of the application. -/
def methodInvokerRef : String :=
  "github.com/nareshkumarthota/flogocomponents/activity/methodinvoker"

/-- The module of the trigger through which messages are published by hand. -/
def restTriggerRef : String := "github.com/project-flogo/contrib/trigger/rest"

/-- The identifier of the resource of a microgateway. -/
def resourceId (name : String) : String :=
  "microgateway:" ++ name

/-- The method that the microgateway of a protocol invokes. -/
def methodName (protocol : String) : String :=
  protocol ++ "Method"

/-- The name of the microgateway that sends the messages of a protocol. -/
def publishName (protocol : String) : String :=
  protocol ++ "Publish"

/-- The action that starts a resource. -/
def start (resource : String) (input : Settings) : Action where
  ref := microgatewayRef
  settings := (∅ : Settings).insert "uri" (.text resource) |>.insert "async" (.bool true)
  input := input

/-- The service that writes to the log. -/
def logService : Service := ⟨"log", logRef, "logging service", ∅⟩

/-- The service that calls a method of the application. -/
def methodInvokerService : Service := ⟨"methodinvoker", methodInvokerRef, "invoke a method", ∅⟩

/-- The step that logs the value of an expression. -/
def logStep (expression : String) : Step :=
  ⟨"log", (∅ : Settings).insert "message" (.text expression)⟩

/-- The step that invokes a method with the message. -/
def invokeStep (method : String) : Step :=
  ⟨"methodinvoker", (∅ : Settings).insert "methodName" (.text method)
    |>.insert "inputData" (.text "=$.payload")⟩

/-- What takes the messages that arrive for a protocol. -/
def inbound (protocol : String) : Resource where
  id := resourceId protocol
  data := {
    name := protocol
    steps := [logStep "=$.payload.message", invokeStep (methodName protocol)]
    services := [logService, methodInvokerService] }

/-- What sends messages by some services of a protocol. -/
def outbound (protocol : String) (services : List Service) : Resource where
  id := resourceId (publishName protocol)
  data := {
    name := publishName protocol
    steps := [logStep "=$.payload.content"]
    services := services ++ [logService] }

/-- The endpoint for messages that are to be sent. -/
def publishTrigger (p : Profile) : Trigger where
  id := publishName p.name
  ref := restTriggerRef
  settings := (∅ : Settings).insert "port" (.integer p.port)
  handlers := [{
    settings := (∅ : Settings).insert "method" (.text "POST") |>.insert "path" (.text "/post")
    actions := [start (resourceId (publishName p.name)) ∅] }]

/-- The microgateway for messages that arrive, if there are triggers that receive them. -/
def inboundEmissions (p : Profile) (hasTriggers : Bool) : List Emission :=
  if hasTriggers then
    [.resource (inbound p.name), .method (methodName p.name),
      .importing microgatewayRef, .importing logRef, .importing methodInvokerRef]
  else []

/-- The microgateway for messages that are sent, if there are services that send them. -/
def outboundEmissions (p : Profile) (services : List Service) : List Emission :=
  if services.isEmpty then []
  else [.trigger (publishTrigger p), .resource (outbound p.name services),
    .importing microgatewayRef, .importing logRef, .importing restTriggerRef]

/-- The microgateways of a protocol. -/
def assemble (p : Profile) (hasTriggers : Bool) (services : List Service) : List Emission :=
  inboundEmissions p hasTriggers ++ outboundEmissions p services

end EventGateway.Gateway
