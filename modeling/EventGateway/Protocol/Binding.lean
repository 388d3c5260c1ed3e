import EventGateway.Protocol.Settings

/-!
# Bindings

A binding is all that a pass has to know about a protocol: the fixed facts, the modules of the
engine that speak it, and how settings are made from endpoints.  Passes run on any binding; the five
protocols are those that a compilation uses.
-/

namespace EventGateway

open Flogo (Settings)

/-- What a pass has to know about a protocol. -/
structure Binding where
  profile : Profile
  /-- The reference of the module that receives messages. -/
  triggerRef : String
  /-- The import of this module, at a version if there is one. -/
  triggerImport : (version : Option String) → String
  /-- The reference of the module that sends messages, if there is one. -/
  activityRef : Option String
  /-- The import of this module, at a version if there is one. -/
  activityImport : (version : Option String) → Option String
  /-- The settings of the trigger of a server. -/
  triggerSettings : Endpoint → Settings
  /-- The settings of the handler of a channel from which messages are received. -/
  handlerSettings : Endpoint → Settings
  /-- The settings of the service of a channel to which messages are sent. -/
  serviceSettings : Endpoint → Settings

/-- The binding of a protocol. -/
def Protocol.binding (p : Protocol) : Binding where
  profile := p.profile
  triggerRef := p.trigger.reference
  triggerImport := p.trigger.importAt
  activityRef := p.activity.map ModulePath.reference
  activityImport version := p.activity.map fun m => m.importAt version
  triggerSettings := p.triggerSettings
  handlerSettings := p.handlerSettings
  serviceSettings := p.serviceSettings

end EventGateway
