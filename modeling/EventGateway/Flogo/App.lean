import EventGateway.Json.Value

/-!
# Flogo applications

The descriptor of a Flogo application: triggers receive messages and hand them to resources, a
resource is a microgateway that runs steps, and a step invokes a service of its microgateway.
Imports name the modules that the engine loads, and properties the values that expressions may refer
to.
-/

namespace EventGateway.Flogo

/-- A loosely typed block of settings. -/
abbrev Settings := Dict Value

/-- The declared type of a property. -/
inductive DataType where
  | string
  | int
deriving DecidableEq, Repr

/-- A property: a named value with a type. -/
structure Property where
  name : String
  type : DataType
  value : Value

namespace Property

/-- A property that holds a text. -/
def string (name value : String) : Property :=
  ⟨name, .string, .text value⟩

/-- A property that holds an integer. -/
def integer (name : String) (value : Int) : Property :=
  ⟨name, .int, .integer value⟩

/-- The same type and the same value. -/
def agrees (p q : Property) : Bool :=
  p.type == q.type && p.value.same q.value

end Property

/-- What a handler does with a message. -/
structure Action where
  ref : String
  settings : Settings
  input : Settings

/-- A part of a trigger that waits for messages of one kind. -/
structure Handler where
  settings : Settings
  actions : List Action

/-- A listener. -/
structure Trigger where
  id : String
  ref : String
  settings : Settings
  handlers : List Handler

/-- Something that a step may invoke. -/
structure Service where
  name : String
  ref : String
  description : String
  settings : Settings

/-- The invocation of a service. -/
structure Step where
  service : String
  input : Settings

/-- Steps, and the services that they may invoke. -/
structure Microgateway where
  name : String
  steps : List Step
  services : List Service

/-- A microgateway under an identifier. -/
structure Resource where
  id : String
  data : Microgateway

/-- An application. -/
structure App where
  name : String
  type : String
  version : String
  description : String
  appModel : String
  imports : List String
  properties : List Property
  triggers : List Trigger
  resources : List Resource

/-- The type of every application that is generated. -/
def appType : String := "flogo:app"

namespace App

/-- An application without parts. -/
def new (name description version appModel : String) : App :=
  ⟨name, appType, version, description, appModel, [], [], [], []⟩

/-- The first trigger with an identifier. -/
def trigger? (app : App) (id : String) : Option Trigger :=
  app.triggers.find? (·.id == id)

/-- The first resource with an identifier. -/
def resource? (app : App) (id : String) : Option Resource :=
  app.resources.find? (·.id == id)

/-- The first property with a name. -/
def property? (app : App) (name : String) : Option Property :=
  app.properties.find? (·.name == name)

/-- The actions of all handlers, in order. -/
def actions (app : App) : List Action :=
  (app.triggers.flatMap Trigger.handlers).flatMap Handler.actions

end App

namespace Action

/-- The resource that an action starts. -/
def uri? (action : Action) : Option String :=
  (action.settings.find? "uri").bind Value.text?

end Action

/-- The resources that actions name and the application does not have, in order and with
repetitions. -/
def App.danglingResourceRefs (app : App) : List String :=
  (app.actions.filterMap Action.uri?).filter fun uri => (app.resource? uri).isNone

/-- The services that steps name and the microgateway does not declare, in order and with
repetitions. -/
def Microgateway.undeclaredStepServices (gateway : Microgateway) : List String :=
  (gateway.steps.map Step.service).filter fun name => !gateway.services.any (·.name == name)

end EventGateway.Flogo
