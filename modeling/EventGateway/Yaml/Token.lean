/-!
# Tokens

The words of a YAML text.  Indentation is made explicit: the start and the end of every block
collection has a token.
-/

namespace EventGateway.Yaml

/-- How a scalar is written. -/
inductive Style where
  | plain
  | quoted
  | literal
  | folded
deriving DecidableEq, Repr

/-- The name of the type of a node, a character at a time.  Escapes write it byte by byte, so it may
hold bytes that are no character; `none` stands for them. -/
structure Tag where
  chars : List (Option Char)
deriving DecidableEq, Repr

namespace Tag

/-- A tag that is given as a text. -/
def ofText (text : String) : Tag :=
  ⟨text.toList.map some⟩

/-- A tag that is written in two parts. -/
def append (a b : Tag) : Tag :=
  ⟨a.chars ++ b.chars⟩

/-- Whether a tag has a meaning in its document only. -/
def isLocal (t : Tag) : Bool :=
  t.chars.head? == some (some '!')

/-- Whether all of a tag is text. -/
def isText (t : Tag) : Bool :=
  t.chars.all Option.isSome

end Tag

/-- A word of a text. -/
inductive Token where
  /-- `%YAML`, with a version. -/
  | versionDirective (major minor : Nat)
  /-- `%TAG`, which gives a handle its meaning. -/
  | tagDirective (handle : String) (meaning : Tag)
  | documentStart
  | documentEnd
  | blockSequenceStart
  | blockMappingStart
  | blockEnd
  | flowSequenceStart
  | flowSequenceEnd
  | flowMappingStart
  | flowMappingEnd
  | blockEntry
  | flowEntry
  | key
  | value
  | alias (name : String)
  | anchor (name : String)
  | tag (handle : String) (suffix : Tag)
  | scalar (text : String) (style : Style)
deriving DecidableEq, Repr

end EventGateway.Yaml
