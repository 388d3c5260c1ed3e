import EventGateway.AsyncApi.Document
import EventGateway.Compile.Trace
import EventGateway.Flogo.Expression
import EventGateway.Text.Blank
import EventGateway.Text.Digits
import EventGateway.Text.Port

/-!
# The connection of a server

The values of the variables of a server become properties, and so do its URL and port where they
have no variables. Settings refer to them by expressions.
-/

namespace EventGateway

open AsyncApi (Server ServerVariable)
open Flogo (Expression Property)
open Text (Template)

/-- The properties of the values of a variable, numbered by position; the default value has the
plain name. -/
def valueProperties (name : String) (default : Option String) (position : Nat) :
    List String → List Property
  | [] => []
  | value :: values =>
    let label := if default = some value then name else name ++ "_" ++ toString position
    .string label value :: valueProperties name default (position + 1) values

/-- The properties of a variable.  A default that is not among the values comes last, and is empty
if there is none. -/
def variableProperties (name : String) (v : ServerVariable) : List Property :=
  valueProperties name v.default 0 v.values
    ++ if v.values.any (some · == v.default) then [] else [.string name (v.default.getD "")]

/-- The name of the property of a variable; `label` is that of the server. -/
def propertyName (label variableName : String) : String :=
  label ++ "_" ++ variableName

/-- The properties of all variables of a server, by name. -/
def serverProperties (label : String) (s : Server) : List Property :=
  s.urlVariables.entries.flatMap fun (name, v) => variableProperties (propertyName label name) v

/-- The variables of the URL that the server does not declare, in order and with repetitions. -/
def undeclaredVariables (s : Server) : List String :=
  (Template.parse s.url).variableNames.filter fun name => !s.urlVariables.contains name

/-- The expression of the URL. -/
def connectUrl (label server : String) (s : Server) : Trace String := do
  let t := Template.parse s.url
  if t.hasVariable then
    Trace.emitAll ((undeclaredVariables s).map fun name =>
      .warning (.undeclaredVariable server name))
    return (Expression.ofTemplate (propertyName label) t).render
  else
    let name := label ++ "URL"
    Trace.emit (.property (.string name s.url))
    return (Expression.operand (.property name)).render

/-- The integer of 64 bits that a text stands for: a sign or none, and decimal digits. -/
def integerOfDecimal? (s : List Char) : Option Int :=
  let n? : Option Int :=
    match s with
    | '-' :: digits => (Text.natOfDigits? 10 digits).map fun n => -(n : Int)
    | '+' :: digits => (Text.natOfDigits? 10 digits).map fun n => (n : Int)
    | digits => (Text.natOfDigits? 10 digits).map fun n => (n : Int)
  n?.filter fun n => Number.minInteger ≤ n && n ≤ Number.maxInteger

/-- The expression of the port, if the URL has one.  A port without variables has to be an
integer. -/
def connectPort (label : String) (s : Server) : Trace (Option String) := do
  let t := Template.ofPort s.url
  if t.isEmpty then return none
  else if t.hasVariable then
    return some (Expression.ofTemplate (propertyName label) t).renderInteger
  else
    match integerOfDecimal? (Text.trim t.literalText.toList) with
    | none => Trace.ofExcept (.error (.port t.literalText s.url))
    | some port =>
      let name := label ++ "Port"
      Trace.emit (.property (.integer name port))
      return some (Expression.operand (.property name)).render

end EventGateway
