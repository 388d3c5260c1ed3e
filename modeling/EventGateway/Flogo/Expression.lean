import EventGateway.Text.Template

/-!
# Expressions

Settings may hold expressions that the engine evaluates, marked by an equals sign.  Those about
connections are made from templates: each literal becomes a text and each variable the property that
holds its value.
-/

namespace EventGateway.Flogo

open Text (Segment Template)

/-- A text or the value of a property. -/
inductive Operand where
  | text (value : String)
  | property (name : String)
deriving DecidableEq, Repr

/-- A value, or texts joined to one. -/
inductive Expression where
  | operand (value : Operand)
  | concat (parts : List Operand)
deriving DecidableEq, Repr

namespace Operand

/-- An operand as it stands in an expression. -/
def render : Operand → String
  | text value => "'" ++ value ++ "'"
  | property name => "$property[" ++ name ++ "]"

/-- The operand of a segment; `property` names the property of a variable. -/
def ofSegment (property : String → String) : Segment → Operand
  | .literal value => text value
  | .placeholder name => .property (property name)

end Operand

namespace Expression

/-- An expression as it is written behind the equals sign. -/
def body : Expression → String
  | operand value => value.render
  | concat parts => "string.concat(" ++ ", ".intercalate (parts.map Operand.render) ++ ")"

/-- The text of an expression. -/
def render (e : Expression) : String :=
  "=" ++ e.body

/-- The text of an expression that is read as an integer. -/
def renderInteger (e : Expression) : String :=
  "=string.integer(" ++ e.body ++ ")"

/-- The expression of a template: a single variable stands alone, anything else is joined. -/
def ofTemplate (property : String → String) (t : Template) : Expression :=
  match t.segments with
  | [.placeholder name] => operand (.property (property name))
  | segments => concat (segments.map (Operand.ofSegment property))

end Expression

end EventGateway.Flogo
