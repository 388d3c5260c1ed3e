/-!
# Templates

A template is a text in which names in braces stand for values, as `/orders/{id}` or
`mqtt://{host}:{port}`.  Reading one cuts the text into its runs without braces: a run that a
closing brace follows is a variable, any other run that is not empty is a literal.
-/

namespace EventGateway.Text

/-- A piece of a template: text that stands for itself, or the place of a variable. -/
inductive Segment where
  | literal (text : String)
  | placeholder (name : String)
deriving DecidableEq, Repr

namespace Segment

/-- The name of a variable; a literal has none. -/
def variableName? : Segment → Option String
  | literal _ => none
  | placeholder name => some name

/-- The text of a literal; a variable has none. -/
def literalText? : Segment → Option String
  | literal text => some text
  | placeholder _ => none

end Segment

/-- A text cut into literals and variables, in order, and whether one of them is a variable. -/
structure Template where
  segments : List Segment
  hasVariable : Bool
deriving DecidableEq, Repr

namespace Template

/-- A template that is being read: the segments up to the last brace, the run that is open since
then, and whether one of the segments is a variable. -/
structure Scanner where
  segments : List Segment
  pending : String
  hasVariable : Bool

namespace Scanner

/-- Nothing has been read. -/
def start : Scanner := ⟨[], "", false⟩

/-- Ends the open run as a literal, unless it is empty. -/
def flushLiteral (s : Scanner) : Scanner :=
  if s.pending.isEmpty then s
  else { s with segments := s.segments ++ [.literal s.pending], pending := "" }

/-- Ends the open run as a variable, unless it is empty. -/
def flushVariable (s : Scanner) : Scanner :=
  if s.pending.isEmpty then s
  else ⟨s.segments ++ [.placeholder s.pending], "", true⟩

/-- Reads one character. -/
def push (s : Scanner) (c : Char) : Scanner :=
  if c = '{' then s.flushLiteral
  else if c = '}' then s.flushVariable
  else { s with pending := s.pending.push c }

/-- The template at the end of the text. -/
def finish (s : Scanner) : Template :=
  ⟨s.flushLiteral.segments, s.flushLiteral.hasVariable⟩

end Scanner

/-- Reads a template.  Every text is one: braces without a partner only separate runs. -/
def parse (text : String) : Template :=
  (text.toList.foldl Scanner.push .start).finish

/-- The template without segments. -/
def empty : Template := ⟨[], false⟩

/-- There is nothing in the template, neither text nor variables. -/
def isEmpty (t : Template) : Bool :=
  t.segments.isEmpty

/-- The names of the variables, in order and with repetitions. -/
def variableNames (t : Template) : List String :=
  t.segments.filterMap Segment.variableName?

/-- The literals, one after the other. -/
def literalText (t : Template) : String :=
  String.join (t.segments.filterMap Segment.literalText?)

/-- The text with `value name` in the place of each variable. -/
def render (value : String → String) (t : Template) : String :=
  String.join <| t.segments.map fun
    | .literal text => text
    | .placeholder name => value name

/-- Variables written as path parameters: `/orders/:id`. -/
def colonParams (t : Template) : String :=
  t.render fun name => ":" ++ name

/-- Variables written in braces: `/orders/{id}`. -/
def bracketed (t : Template) : String :=
  t.render fun name => "\x7b" ++ name ++ "\x7d"

end Template

end EventGateway.Text
