import EventGateway.Flogo.App

/-!
# The property registry

Properties in the order of registration, one for each name: the first registration of a name counts.
A later one that agrees with it is passed over in silence, any other leaves a conflict.
-/

namespace EventGateway

open Flogo (Property)

/-- A later registration of a name that does not agree with the first one. -/
structure Conflict where
  name : String
  kept : Value
  ignored : Value

/-- The text of a conflict. -/
def Conflict.message (c : Conflict) : String :=
  "property " ++ c.name ++ " already declared with value " ++ c.kept.compact ++ ", ignoring " ++
    c.ignored.compact

/-- Properties with different names, and the conflicts so far. -/
structure PropertyRegistry where
  properties : List Property := []
  conflicts : List Conflict := []

namespace PropertyRegistry

instance : EmptyCollection PropertyRegistry := ⟨{}⟩

/-- The property of a name. -/
def find? (r : PropertyRegistry) (name : String) : Option Property :=
  r.properties.find? (·.name == name)

/-- Whether a name is taken. -/
def contains (r : PropertyRegistry) (name : String) : Bool :=
  r.properties.any (·.name == name)

/-- Registers a property: adds it unless its name is taken, and tells whether it was added. -/
def register (r : PropertyRegistry) (p : Property) : PropertyRegistry × Bool :=
  match r.find? p.name with
  | none => ({ r with properties := r.properties ++ [p] }, true)
  | some kept =>
    if kept.agrees p then (r, false)
    else ({ r with conflicts := r.conflicts ++ [⟨p.name, kept.value, p.value⟩] }, false)

/-- The registry after a registration. -/
def insert (r : PropertyRegistry) (p : Property) : PropertyRegistry :=
  (r.register p).1

/-- The texts of the conflicts. -/
def messages (r : PropertyRegistry) : List String :=
  r.conflicts.map Conflict.message

end PropertyRegistry

end EventGateway
