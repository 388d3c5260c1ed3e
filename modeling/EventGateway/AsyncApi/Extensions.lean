import EventGateway.AsyncApi.Document
import EventGateway.Fault

/-!
# Extensions

Servers and parameters may carry extensions, fields whose names start with `x-`.  Those that a
compilation reads have to be of their type; null stands for a missing one.
-/

namespace EventGateway.AsyncApi

/-- Reads an extension that has to be of some type. -/
def readExtension {α : Type} (owner : String) (extensions : Dict Value) (key : String)
    (expected : Kind) (read : Value → Option α) : Except Fault (Option α) :=
  match extensions.find? key with
  | none => .ok none
  | some value =>
    if value.isNull then .ok none
    else
      match read value with
      | some a => .ok (some a)
      | none => .error (.extension key owner expected value)

/-- What the extensions of a server say. -/
structure ServerExtensions where
  /-- The directory in which a session is kept. -/
  store : Option String := none
  cleanSession : Option Bool := none
  /-- Seconds between signs of life. -/
  keepAlive : Option Number := none
  autoReconnect : Option Bool := none
  skipVerify : Option Bool := none
  useSystemCert : Option Bool := none
  /-- The version of the trigger module. -/
  triggerVersion : Option String := none
  /-- The version of the activity module. -/
  activityVersion : Option String := none
deriving DecidableEq

/-- Reads the extensions of a server.  Those about the connection are read only if `connection` is
set, so that servers of other protocols may carry them with values of any type. -/
def ServerExtensions.read (owner : String) (extensions : Dict Value) (connection : Bool) :
    Except Fault ServerExtensions := do
  let triggerVersion ← readExtension owner extensions "x-trigger-version" .string Value.text?
  let activityVersion ← readExtension owner extensions "x-activity-version" .string Value.text?
  if connection then
    let store ← readExtension owner extensions "x-store" .string Value.text?
    let cleanSession ← readExtension owner extensions "x-clean-session" .boolean Value.bool?
    let keepAlive ← readExtension owner extensions "x-keep-alive" .number Value.number?
    let autoReconnect ← readExtension owner extensions "x-auto-reconnect" .boolean Value.bool?
    let skipVerify ← readExtension owner extensions "x-skip-verify" .boolean Value.bool?
    let useSystemCert ← readExtension owner extensions "x-use-systemcert" .boolean Value.bool?
    return { store, cleanSession, keepAlive, autoReconnect, skipVerify, useSystemCert,
             triggerVersion, activityVersion }
  else
    return { triggerVersion, activityVersion }

/-- A parameter of a channel with its extension. -/
structure ChannelParameter where
  name : String
  /-- Whether it stands for several levels of a topic. -/
  multilevel : Option Bool
deriving DecidableEq, Repr

namespace ChannelParameter

/-- Whether the parameter stands for several levels; it stands for one unless it says so. -/
def isMultilevel (p : ChannelParameter) : Bool :=
  p.multilevel.getD false

/-- Reads the extensions of a parameter. -/
def read (channel name : String) (p : Parameter) : Except Fault ChannelParameter := do
  let owner := "parameter " ++ name ++ " of channel " ++ channel
  return ⟨name, ← readExtension owner p.extensions "x-multilevel" .boolean Value.bool?⟩

/-- Reads all named parameters of a channel. -/
def readAll (channel : String) (parameters : Layout Parameter) :
    Except Fault (List ChannelParameter) :=
  parameters.parameters.mapM fun (name, p) => read channel name p

end ChannelParameter

end EventGateway.AsyncApi
