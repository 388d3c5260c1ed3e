import EventGateway.Yaml.Cursor

/-!
# Plain scalars

A plain scalar has no quotes.  It ends at a colon in front of a gap, at a comment, at a document
marker, at a line that is not indented and, inside flow collections, at their indicators.  Blanks
and line ends inside are folded: the blanks around a line end vanish, one line end becomes a blank,
and of several the first one vanishes.
-/

namespace EventGateway.Yaml

/-- What stands between two words of a scalar: blanks inside a line, last one first, or line ends,
the first one apart and the others last one first. -/
inductive Gap where
  | blanks (run : List Char)
  | breaks (first : List Char) (others : List Char)

namespace Gap

/-- No gap. -/
def none : Gap := blanks []

/-- A blank follows. -/
def blank (c : Char) : Gap → Gap
  | blanks run => blanks (c :: run)
  | breaks first others => breaks first others

/-- A line end follows. -/
def lineEnd (c : Char) : Gap → Gap
  | blanks _ => breaks [c] []
  | breaks first others => breaks first (c :: others)

/-- Whether a gap goes over the end of a line. -/
def hasBreak : Gap → Bool
  | blanks _ => false
  | breaks _ _ => true

/-- The text of a gap, last character first. -/
def folded : Gap → List Char
  | blanks run => run
  | breaks ['\n'] [] => [' ']
  | breaks ['\n'] others => others
  | breaks first others => others ++ first

end Gap

/-- What has been read of a plain scalar: the characters up to the gap, last one first, and the
gap. -/
structure PlainText where
  read : List Char := []
  gap : Gap := .none
  /-- Whether the character before was part of the gap. -/
  afterGap : Bool := false

namespace PlainText

/-- Whether a plain scalar cannot go on here after a gap. -/
def breaksOffAt (inFlow : Bool) (indent : Int) (column : Nat) (s : List Char) : Bool :=
  (!inFlow && (column : Int) < indent) || (column == 0 && atAnyMarker s) || s.head? == some '#'

/-- Whether a plain scalar ends in front of these characters, be it after a gap or not. -/
def endsAt (inFlow : Bool) : List Char → Bool
  | [] => true
  | x :: rest => (x == ':' && atGap rest) || (inFlow && isFlowIndicator x)

/-- Whether these characters are refused: inside flow collections, a colon in front of an
indicator. -/
def refusedAt (inFlow : Bool) : List Char → Bool
  | ':' :: x :: _ => inFlow && (isFlowIndicator x || x == '?')
  | _ => false

/-- Reads on.  `indent` is the least column of a line that continues the scalar. -/
def scan? (inFlow : Bool) (indent : Int) (t : PlainText) (p : Place) :
    (rest : List Char) → Option (PlainText × Cursor)
  | [] => some (t, ⟨[], p⟩)
  | x :: rest =>
    if isBreak x then scan? inFlow indent ⟨t.read, t.gap.lineEnd x, true⟩ p.nextLine rest
    else if isSpace x then
      if x = '\t' ∧ t.gap.hasBreak ∧ (p.column : Int) < indent then none
      else scan? inFlow indent ⟨t.read, t.gap.blank x, true⟩ (p.next x) rest
    else if t.afterGap && breaksOffAt inFlow indent p.column (x :: rest) then
      some (t, ⟨x :: rest, p⟩)
    else if refusedAt inFlow (x :: rest) then none
    else if endsAt inFlow (x :: rest) then some (t, ⟨x :: rest, p⟩)
    else scan? inFlow indent ⟨x :: (t.gap.folded ++ t.read), .none, false⟩ (p.next x) rest

/-- The text of the scalar. -/
def text (t : PlainText) : String :=
  String.ofList t.read.reverse

/-- Reads a plain scalar. -/
def read? (inFlow : Bool) (indent : Int) (c : Cursor) : Option (PlainText × Cursor) :=
  scan? inFlow indent {} c.place c.rest

end PlainText

end EventGateway.Yaml
