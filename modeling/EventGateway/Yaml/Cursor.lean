/-!
# Characters and places

The characters that a YAML text may hold, the classes of characters that its grammar tells apart,
and the place in a text up to which it has been read.
-/

namespace EventGateway.Yaml

/-- Characters that a text may hold; all other control characters are refused. -/
def isAllowed (c : Char) : Bool :=
  let n := c.toNat
  n == 0x09 || n == 0x0A || n == 0x0D || (0x20 ≤ n && n ≤ 0x7E) || n == 0x85 ||
    (0xA0 ≤ n && n ≤ 0xD7FF) || (0xE000 ≤ n && n ≤ 0xFFFD) || 0x10000 ≤ n

/-- The mark that may stand at the start of a text or of a line. -/
def byteOrderMark : Char := '\uFEFF'

/-- Writes every end of line as one character: a carriage return with or without a line feed and the
control character for a next line become a line feed. -/
def unifyBreaks (afterReturn : Bool) : List Char → List Char
  | [] => []
  | c :: rest =>
    if c = '\r' then '\n' :: unifyBreaks true rest
    else if c = '\n' ∧ afterReturn then unifyBreaks false rest
    else if c = '\x85' then '\n' :: unifyBreaks false rest
    else c :: unifyBreaks false rest

/-- Characters that end a line. -/
def isBreak (c : Char) : Bool :=
  c == '\n' || c == '\u2028' || c == '\u2029'

/-- Blanks inside a line. -/
def isSpace (c : Char) : Bool :=
  c == ' ' || c == '\t'

/-- Characters of names. -/
def isWordChar (c : Char) : Bool :=
  c.isAlphanum || c == '_' || c == '-'

/-- Characters that have a meaning inside flow collections. -/
def isFlowIndicator (c : Char) : Bool :=
  c == ',' || c == '[' || c == ']' || c == '{' || c == '}'

/-- Whether a blank, the end of a line or the end of the text comes next. -/
def atGap : List Char → Bool
  | [] => true
  | c :: _ => isSpace c || isBreak c

/-- Whether a document marker, three equal characters in front of a gap, comes next. -/
def atMarker (c : Char) : List Char → Bool
  | x :: y :: z :: rest => x == c && y == c && z == c && atGap rest
  | _ => false

/-- Whether either document marker comes next. -/
def atAnyMarker (s : List Char) : Bool :=
  atMarker '-' s || atMarker '.' s

/-- A place in a text.  Columns count characters, but the length of a key is counted in bytes, so a
place has both. -/
structure Place where
  line : Nat := 0
  column : Nat := 0
  /-- How many bytes of the line stand before it. -/
  offset : Nat := 0
deriving DecidableEq, Repr

namespace Place

/-- The place behind a character that does not end the line. -/
def next (p : Place) (c : Char) : Place :=
  ⟨p.line, p.column + 1, p.offset + c.utf8Size⟩

/-- The start of the next line. -/
def nextLine (p : Place) : Place :=
  ⟨p.line + 1, 0, 0⟩

end Place

/-- How far a text has been read: what is left, and where that starts. -/
structure Cursor where
  rest : List Char
  place : Place

namespace Cursor

/-- Goes on inside a line. -/
def advance (c : Cursor) (n : Nat) : Cursor :=
  ⟨c.rest.drop n, (c.rest.take n).foldl Place.next c.place⟩

/-- Goes on behind the end of a line. -/
def nextLine (c : Cursor) : Cursor :=
  ⟨c.rest.drop 1, c.place.nextLine⟩

/-- Takes the characters of a class. -/
def takeWhile (c : Cursor) (p : Char → Bool) : List Char × Cursor :=
  let run := c.rest.takeWhile p
  (run, c.advance run.length)

/-- Skips the characters of a class. -/
def skipWhile (c : Cursor) (p : Char → Bool) : Cursor :=
  (c.takeWhile p).2

/-- Whether a character comes next. -/
def sees (c : Cursor) (x : Char) : Bool :=
  c.rest.head? == some x

/-- Skips a comment. -/
def skipComment (c : Cursor) : Cursor :=
  if c.sees '#' then c.skipWhile fun x => !isBreak x else c

/-- Skips blanks and a comment up to the end of the line, and the end of the line with them. -/
def finishLine? (c : Cursor) : Option Cursor :=
  let c := (c.skipWhile isSpace).skipComment
  match c.rest with
  | [] => some c
  | x :: _ => if isBreak x then some c.nextLine else none

end Cursor

end EventGateway.Yaml
