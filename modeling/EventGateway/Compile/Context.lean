import EventGateway.AsyncApi.BindingInfo
import EventGateway.AsyncApi.Document
import EventGateway.Registry.Imports
import EventGateway.Registry.Properties

/-!
# The context of a compilation

A compilation runs in passes, and a pass tells what it produces by emissions, one after the other.
The context takes them up: it only grows, keeps the first property of each name and the first import
of each key, and takes up the binding information of an operation once.
-/

namespace EventGateway

open AsyncApi (Defect Direction OperationBindings)

/-- Something that does not keep a document from being compiled. -/
inductive Warning where
  | unsupportedProtocol (server protocol : String)
  | undeclaredVariable (server name : String)
  /-- A part of the binding information of an operation is left out. -/
  | binding (channel : String) (direction : Direction) (defect : Defect)
  | conflict (conflict : Conflict)

/-- How the operation of a channel is named in messages. -/
def operationOwner (channel : String) (direction : Direction) : String :=
  direction.name ++ " operation of channel " ++ channel

/-- The text of a warning. -/
def Warning.message : Warning → String
  | unsupportedProtocol server protocol =>
    "server " ++ server ++ ": protocol " ++ protocol ++ " is not supported, skipping"
  | undeclaredVariable server name =>
      "server " ++ server ++ ": url variable " ++ name ++ " is not declared"
  | binding channel direction defect => defect.message (operationOwner channel direction)
  | conflict c => c.message

/-- Something that a pass produces. -/
inductive Emission where
  | property (p : Flogo.Property)
  | importing (text : String)
  | trigger (t : Flogo.Trigger)
  | resource (r : Flogo.Resource)
  /-- The name of a method that the support code has to have. -/
  | method (name : String)
  | warning (w : Warning)
  /-- The binding information of an operation, and what is left out of it. -/
  | bindings (channel : String) (direction : Direction) (info : OperationBindings)
      (defects : List Defect)

/-- Adds a name unless it is there. -/
def addName (names : List String) (name : String) : List String :=
  if names.contains name then names else names ++ [name]

/-- What passes have produced so far. -/
structure Context where
  /-- The application; its properties and imports are kept apart until the end. -/
  app : Flogo.App
  properties : PropertyRegistry := ∅
  imports : ImportRegistry := ∅
  /-- The methods of the support code, each once. -/
  methods : List String := []
  warnings : List Warning := []
  /-- The binding information of the operations that have been read. -/
  decoded : List ((String × Direction) × OperationBindings) := []

/-- The result of a compilation. -/
structure Compilation where
  app : Flogo.App
  /-- The methods of the support code. -/
  methods : List String
  warnings : List Warning

namespace Context

/-- The binding information that an operation has been given. -/
def bindings? (c : Context) (channel : String) (direction : Direction) : Option OperationBindings :=
  c.decoded.lookup (channel, direction)

/-- Takes up an emission. -/
def absorb (c : Context) : Emission → Context
  | .property p => { c with properties := c.properties.insert p }
  | .importing text => { c with imports := c.imports.insert text }
  | .trigger t => { c with app := { c.app with triggers := c.app.triggers ++ [t] } }
  | .resource r => { c with app := { c.app with resources := c.app.resources ++ [r] } }
  | .method name => { c with methods := addName c.methods name }
  | .warning w => { c with warnings := c.warnings ++ [w] }
  | .bindings channel direction info defects =>
    if (c.bindings? channel direction).isSome then c
    else { c with
      decoded := c.decoded ++ [((channel, direction), info)]
      warnings := c.warnings ++ defects.map (.binding channel direction) }

/-- Takes up emissions in order. -/
def absorbAll (c : Context) (emissions : List Emission) : Context :=
  emissions.foldl absorb c

/-- Puts properties and imports into the application, and reports the conflicts of properties. -/
def finish (c : Context) : Compilation where
  app := { c.app with properties := c.properties.properties, imports := c.imports.imports }
  methods := c.methods
  warnings := c.warnings ++ c.properties.conflicts.map .conflict

end Context

end EventGateway
