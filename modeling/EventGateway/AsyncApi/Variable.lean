import EventGateway.AsyncApi.Document
import EventGateway.Draft

/-!
# Reading server variables

The values of a variable are texts, but writers often leave numbers and booleans without quotes, so
every scalar is taken as its text.  A value that is no scalar is the one mismatch that is told apart
from others.
-/

namespace EventGateway.AsyncApi.ServerVariable

/-- Why a draft is no server variable. -/
inductive Mismatch where
  /-- Some part has another type. -/
  | shape
  /-- A scalar is expected where another value stands. -/
  | notScalar (found : Value)

/-- The text of a scalar. -/
def scalarText (v : Value) : Except Mismatch String :=
  match v.json with
  | .text value => .ok value
  | .number value => .ok value.text
  | .bool true => .ok "true"
  | .bool false => .ok "false"
  | _ => .error (.notScalar v)

/-- What a reader finds, where nothing is a mismatch of the shape. -/
def orShape {α : Type} : Option α → Except Mismatch α
  | some a => .ok a
  | none => .error .shape

/-- The values that a variable may have. -/
def readValues (r : Record) : Except Mismatch (List String) := do
  let values ← orShape (r.withDefault "enum" [] (Draft.listOf? Draft.value?))
  values.mapM scalarText

/-- The value that a variable has if none is chosen. -/
def readDefault (r : Record) : Except Mismatch (Option String) := do
  match ← orShape (r.optional "default" Draft.value?) with
  | none => return none
  | some value => if value.isNull then return none else return some (← scalarText value)

/-- The description of a variable, if it is a text. -/
def readDescription (r : Record) : Except Mismatch (Option String) :=
  orShape (r.optional "description" Draft.text?)

/-- The fields of a server variable. -/
def fields : List Field :=
  ["enum", "default", "description"]

/-- Reads a server variable.  A list of parts is read in the order of the fields, a map in the order
of their names. -/
def ofDraft : Draft → Except Mismatch ServerVariable
  | .list items => do
    let r : Record := ⟨(fields.map Field.name).zip items⟩
    let values ← readValues r
    let default ← readDefault r
    let description ← readDescription r
    if items.length ≤ fields.length then return { values, default, description } else throw .shape
  | d => do
    let r ← orShape (d.record? fields)
    let default ← readDefault r
    let description ← readDescription r
    let values ← readValues r
    return { values, default, description }

/-- `ofDraft` without the reason. -/
def ofDraft? (d : Draft) : Option ServerVariable :=
  (ofDraft d).toOption

/-- A variable as JSON; a missing default is `null`. -/
def toJson (v : ServerVariable) : Json :=
  .object [("enum", .ofTexts v.values), ("default", .ofOption .text v.default),
    ("description", .ofOption .text v.description)]

end EventGateway.AsyncApi.ServerVariable
