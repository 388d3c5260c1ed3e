import EventGateway.AsyncApi.Document
import EventGateway.Catalog

/-!
# Options

A document describes an application from outside, and the gateway may play that application or its
counterpart.
-/

namespace EventGateway

open AsyncApi (Direction)

/-- The side that is played. -/
inductive Role where
  /-- The application that the document describes: it receives what others subscribe. -/
  | server
  /-- Its counterpart, for which directions are exchanged. -/
  | client
deriving DecidableEq, Repr

namespace Role

/-- The direction of messages that are received. -/
def inbound : Role → Direction
  | server => .subscribe
  | client => .publish

/-- The direction of messages that are sent. -/
def outbound : Role → Direction
  | server => .publish
  | client => .subscribe

end Role

/-- What a compilation depends on besides the document. -/
structure Options where
  role : Role := .server
  catalog : Catalog := .standard
  /-- The version of the generated application. -/
  appVersion : String := "1.0.0"
  /-- The version of the model that its descriptor follows. -/
  appModel : String := "1.1.0"

end EventGateway
