/-!
# Protocols

The five protocols, and for each the fixed facts about it: its identifiers, the layout of its
messages, and the modules of the engine that speak it.
-/

namespace EventGateway

/-- The protocols that can be compiled. -/
inductive Protocol where
  | kafka
  | eftl
  | mqtt
  | ws
  | http
deriving DecidableEq, Repr

/-- Where a part of the engine lives: a module, and a path inside it. -/
structure ModulePath where
  module : String
  sub : Option String := none
deriving DecidableEq, Repr

namespace ModulePath

/-- The path of the part, without a version. -/
def reference (p : ModulePath) : String :=
  match p.sub with
  | none => p.module
  | some sub => p.module ++ "/" ++ sub

/-- The import of the part at a version. -/
def pinned (p : ModulePath) (version : String) : String :=
  match p.sub with
  | none => p.module ++ "@" ++ version
  | some sub => p.module ++ "@" ++ version ++ ":/" ++ sub

/-- The import of the part, at a version if there is one. -/
def importAt (p : ModulePath) : (version : Option String) → String
  | some version => p.pinned version
  | none => p.reference

end ModulePath

/-- The fixed facts about a protocol. -/
structure Profile where
  /-- The plain identifier. -/
  name : String
  /-- The identifier of the secure variant. -/
  secure : String
  /-- The port of the endpoint that sends messages. -/
  port : Nat
  /-- Where a trigger puts the message. -/
  contentPath : String
  /-- Where a trigger puts the parameters of the topic. -/
  paramsPath : Option String
  /-- Whether the extensions about the connection are read. -/
  connectionExtensions : Bool
deriving DecidableEq, Repr

/-- Whether an identifier names a protocol, in either variant. -/
def Profile.isNamedBy (p : Profile) (identifier : String) : Bool :=
  identifier == p.name || identifier == p.secure

namespace Protocol

/-- All protocols, in the order in which they are compiled. -/
def all : List Protocol :=
  [kafka, eftl, mqtt, ws, http]

/-- The fixed facts about each protocol. -/
def profile : Protocol → Profile
  | kafka => {
      name := "kafka"
      secure := "kafka-secure"
      port := 9096
      contentPath := "message"
      paramsPath := none
      connectionExtensions := false }
  | eftl => {
      name := "eftl"
      secure := "eftl-secure"
      port := 9097
      contentPath := "content"
      paramsPath := none
      connectionExtensions := false }
  | mqtt => {
      name := "mqtt"
      secure := "secure-mqtt"
      port := 9098
      contentPath := "message"
      paramsPath := some "topicParams"
      connectionExtensions := true }
  | ws => {
      name := "ws"
      secure := "wss"
      port := 9099
      contentPath := "content"
      paramsPath := none
      connectionExtensions := false }
  | http => {
      name := "http"
      secure := "https"
      port := 9100
      contentPath := "content"
      paramsPath := none
      connectionExtensions := false }

/-- The module that receives the messages of a protocol. -/
def trigger : Protocol → ModulePath
  | kafka => ⟨"github.com/project-flogo/contrib/trigger/kafka", none⟩
  | eftl => ⟨"github.com/project-flogo/eftl", some "trigger"⟩
  | mqtt => ⟨"github.com/project-flogo/edge-contrib/trigger/mqtt", none⟩
  | ws => ⟨"github.com/project-flogo/websocket", some "trigger/wsclient"⟩
  | http => ⟨"github.com/project-flogo/contrib/trigger/rest", none⟩

/-- The module that sends messages, if there is one. -/
def activity : Protocol → Option ModulePath
  | kafka => some ⟨"github.com/project-flogo/contrib/activity/kafka", none⟩
  | eftl => some ⟨"github.com/project-flogo/eftl", some "activity"⟩
  | mqtt => some ⟨"github.com/project-flogo/edge-contrib/activity/mqtt", none⟩
  | ws => none
  | http => some ⟨"github.com/project-flogo/contrib/activity/rest", none⟩

-- The references of these modules, and their imports with the place of the version in braces.
example : all.map (fun p => (p.trigger.reference, p.trigger.pinned "\x7bversion\x7d")) =
    [("github.com/project-flogo/contrib/trigger/kafka",
        "github.com/project-flogo/contrib/trigger/kafka@\x7bversion\x7d"),
      ("github.com/project-flogo/eftl/trigger",
        "github.com/project-flogo/eftl@\x7bversion\x7d:/trigger"),
      ("github.com/project-flogo/edge-contrib/trigger/mqtt",
        "github.com/project-flogo/edge-contrib/trigger/mqtt@\x7bversion\x7d"),
      ("github.com/project-flogo/websocket/trigger/wsclient",
        "github.com/project-flogo/websocket@\x7bversion\x7d:/trigger/wsclient"),
      ("github.com/project-flogo/contrib/trigger/rest",
        "github.com/project-flogo/contrib/trigger/rest@\x7bversion\x7d")] := by
  decide

example : all.map (fun p => p.activity.map fun m =>
      (m.reference, m.pinned "\x7bversion\x7d")) =
    [some ("github.com/project-flogo/contrib/activity/kafka",
        "github.com/project-flogo/contrib/activity/kafka@\x7bversion\x7d"),
      some ("github.com/project-flogo/eftl/activity",
        "github.com/project-flogo/eftl@\x7bversion\x7d:/activity"),
      some ("github.com/project-flogo/edge-contrib/activity/mqtt",
        "github.com/project-flogo/edge-contrib/activity/mqtt@\x7bversion\x7d"),
      none,
      some ("github.com/project-flogo/contrib/activity/rest",
        "github.com/project-flogo/contrib/activity/rest@\x7bversion\x7d")] := by
  decide

/-- The plain identifier of a protocol. -/
def name (p : Protocol) : String :=
  p.profile.name

/-- Whether an identifier names the protocol, in either variant. -/
def isNamedBy (p : Protocol) (identifier : String) : Bool :=
  p.profile.isNamedBy identifier

/-- The protocol that an identifier names, and whether it names the secure variant. -/
def ofIdentifier? (identifier : String) : Option (Protocol × Bool) :=
  all.findSome? fun p =>
    if identifier = p.profile.name then some (p, false)
    else if identifier = p.profile.secure then some (p, true)
    else none

end Protocol

end EventGateway
