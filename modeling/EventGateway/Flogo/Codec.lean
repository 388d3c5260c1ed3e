import EventGateway.Draft
import EventGateway.Flogo.App

/-!
# Descriptors as JSON

Every part of an application is written as an object with its fields in a fixed order; an empty
input of an action and empty settings of a service are left out.  Reading accepts the fields in any
order, passes over others, and takes the default for fields that may be missing.
-/

namespace EventGateway.Flogo

/-- Settings as JSON. -/
def Settings.toJson (settings : Settings) : Json :=
  .object (Value.memberList settings)

/-- A member that is left out if the settings are empty. -/
def settingsMember (name : String) (settings : Settings) : List (String × Json) :=
  if settings.isEmpty then [] else [(name, Settings.toJson settings)]

namespace DataType

/-- The name of a type in a descriptor. -/
def name : DataType → String
  | string => "string"
  | int => "int"

/-- The type with a name. -/
def ofName? : String → Option DataType
  | "string" => some string
  | "int" => some int
  | _ => none

/-- A type is its name, or a map from its name to null. -/
def ofDraft? : Draft → Option DataType
  | .text name => ofName? name
  | .map [(.text name, .null)] => ofName? name
  | _ => none

end DataType

namespace Property

/-- A property as JSON. -/
def toJson (p : Property) : Json :=
  .object [("name", .text p.name), ("type", .text p.type.name), ("value", p.value.json)]

/-- Reads a property, of which nothing may be missing. -/
def ofDraft? (d : Draft) : Option Property := do
  let r ← d.record? ["name", "type", "value"]
  return {
    name := ← r.required "name" Draft.text?
    type := ← r.required "type" DataType.ofDraft?
    value := ← r.required "value" Draft.value? }

end Property

namespace Action

/-- An action as JSON; an empty input is left out. -/
def toJson (a : Action) : Json :=
  .object ([("ref", .text a.ref), ("settings", Settings.toJson a.settings)] ++
    settingsMember "input" a.input)

/-- Reads an action. -/
def ofDraft? (d : Draft) : Option Action := do
  let r ← d.record? ["ref", "settings", "input"]
  return {
    ref := ← r.required "ref" Draft.text?
    settings := ← r.withDefault "settings" ∅ Draft.settings?
    input := ← r.withDefault "input" ∅ Draft.settings? }

end Action

namespace Handler

/-- A handler as JSON. -/
def toJson (h : Handler) : Json :=
  .object [("settings", Settings.toJson h.settings),
    ("actions", .list (h.actions.map Action.toJson))]

/-- Reads a handler. -/
def ofDraft? (d : Draft) : Option Handler := do
  let r ← d.record? ["settings", "actions"]
  return {
    settings := ← r.withDefault "settings" ∅ Draft.settings?
    actions := ← r.withDefault "actions" [] (Draft.listOf? Action.ofDraft?) }

end Handler

namespace Trigger

/-- A trigger as JSON. -/
def toJson (t : Trigger) : Json :=
  .object [("id", .text t.id), ("ref", .text t.ref), ("settings", Settings.toJson t.settings),
    ("handlers", .list (t.handlers.map Handler.toJson))]

/-- Reads a trigger. -/
def ofDraft? (d : Draft) : Option Trigger := do
  let r ← d.record? ["id", "ref", "settings", "handlers"]
  return {
    id := ← r.required "id" Draft.text?
    ref := ← r.required "ref" Draft.text?
    settings := ← r.withDefault "settings" ∅ Draft.settings?
    handlers := ← r.withDefault "handlers" [] (Draft.listOf? Handler.ofDraft?) }

end Trigger

namespace Service

/-- A service as JSON; empty settings are left out. -/
def toJson (s : Service) : Json :=
  .object ([("name", .text s.name), ("ref", .text s.ref), ("description", .text s.description)]
    ++ settingsMember "settings" s.settings)

/-- Reads a service. -/
def ofDraft? (d : Draft) : Option Service := do
  let r ← d.record? ["name", "ref", "description", "settings"]
  return {
    name := ← r.required "name" Draft.text?
    ref := ← r.required "ref" Draft.text?
    description := ← r.withDefault "description" "" Draft.text?
    settings := ← r.withDefault "settings" ∅ Draft.settings? }

end Service

namespace Step

/-- A step as JSON. -/
def toJson (s : Step) : Json :=
  .object [("service", .text s.service), ("input", Settings.toJson s.input)]

/-- Reads a step. -/
def ofDraft? (d : Draft) : Option Step := do
  let r ← d.record? ["service", "input"]
  return {
    service := ← r.required "service" Draft.text?
    input := ← r.withDefault "input" ∅ Draft.settings? }

end Step

namespace Microgateway

/-- A microgateway as JSON. -/
def toJson (m : Microgateway) : Json :=
  .object [("name", .text m.name), ("steps", .list (m.steps.map Step.toJson)),
    ("services", .list (m.services.map Service.toJson))]

/-- Reads a microgateway. -/
def ofDraft? (d : Draft) : Option Microgateway := do
  let r ← d.record? ["name", "steps", "services"]
  return {
    name := ← r.required "name" Draft.text?
    steps := ← r.withDefault "steps" [] (Draft.listOf? Step.ofDraft?)
    services := ← r.withDefault "services" [] (Draft.listOf? Service.ofDraft?) }

end Microgateway

namespace Resource

/-- A resource as JSON. -/
def toJson (r : Resource) : Json :=
  .object [("id", .text r.id), ("data", r.data.toJson)]

/-- Reads a resource. -/
def ofDraft? (d : Draft) : Option Resource := do
  let r ← d.record? ["id", "data"]
  return {
    id := ← r.required "id" Draft.text?
    data := ← r.required "data" Microgateway.ofDraft? }

end Resource

namespace App

/-- The descriptor of an application. -/
def toJson (app : App) : Json :=
  .object [("name", .text app.name), ("type", .text app.type), ("version", .text app.version),
    ("description", .text app.description), ("appModel", .text app.appModel),
    ("imports", .ofTexts app.imports), ("properties", .list (app.properties.map Property.toJson)),
    ("triggers", .list (app.triggers.map Trigger.toJson)),
    ("resources", .list (app.resources.map Resource.toJson))]

/-- Reads a descriptor; lists may be missing, texts may not. -/
def ofDraft? (d : Draft) : Option App := do
  let r ← d.record?
    ["name", "type", "version", "description", "appModel", "imports", "properties", "triggers",
      "resources"]
  return {
    name := ← r.required "name" Draft.text?
    type := ← r.required "type" Draft.text?
    version := ← r.required "version" Draft.text?
    description := ← r.withDefault "description" "" Draft.text?
    appModel := ← r.required "appModel" Draft.text?
    imports := ← r.withDefault "imports" [] (Draft.listOf? Draft.text?)
    properties := ← r.withDefault "properties" [] (Draft.listOf? Property.ofDraft?)
    triggers := ← r.withDefault "triggers" [] (Draft.listOf? Trigger.ofDraft?)
    resources := ← r.withDefault "resources" [] (Draft.listOf? Resource.ofDraft?) }

/-- The text of a descriptor. -/
def descriptor (app : App) : String :=
  app.toJson.pretty

end App

end EventGateway.Flogo
