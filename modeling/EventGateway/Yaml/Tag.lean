import EventGateway.Yaml.QuotedText
import EventGateway.Yaml.Token

/-!
# Tags and directives

A tag names the type of a node.  It is written in full as `!<...>`, or as a handle and a suffix;
directives at the start of a document say what handles mean.
-/

namespace EventGateway.Yaml

/-- Characters of tags; a percent sign starts the code of a byte. -/
def isTagChar (c : Char) : Bool :=
  isWordChar c ||
    [';', '/', '?', ':', '@', '&', '=', '+', '$', '.', '%', '!', '~', '*', '\'', '(', ')'].contains
      c

/-- Characters of tags that are written in full. -/
def isFullTagChar (c : Char) : Bool :=
  isTagChar c || c == ',' || c == '[' || c == ']'

/-- A character that is written as escaped bytes, as far as it has been read. -/
structure OpenEscape where
  /-- How many bytes are still to come. -/
  left : Nat
  /-- The least code that needs as many bytes. -/
  least : Nat
  /-- The code so far. -/
  code : Nat

namespace OpenEscape

/-- The first byte of a character in UTF-8. -/
def first? (byte : Nat) : Option OpenEscape :=
  if byte < 0x80 then some ⟨0, 0, byte⟩
  else if byte < 0xC0 then none
  else if byte < 0xE0 then some ⟨1, 0x80, byte - 0xC0⟩
  else if byte < 0xF0 then some ⟨2, 0x800, byte - 0xE0⟩
  else if byte < 0xF8 then some ⟨3, 0x10000, byte - 0xF0⟩
  else none

/-- Takes another byte. -/
def next? (e : OpenEscape) (byte : Nat) : Option OpenEscape :=
  if byte / 64 = 2 then some ⟨e.left - 1, e.least, e.code * 64 + byte % 64⟩ else none

/-- The character of a complete escape.  Codes that need fewer bytes, codes of surrogates and codes
beyond the last one are bytes like others, but no character. -/
def char? (e : OpenEscape) : Option Char :=
  if e.code < e.least then none else charOfCode? e.code

end OpenEscape

/-- Resolves percent signs.  `pending` is the character whose bytes are still to come. -/
def unescapeTag? (pending : Option OpenEscape) : List Char → Option (List (Option Char))
  | [] => if pending.isSome then none else some []
  | '%' :: a :: b :: rest =>
    (Text.hexValue? a).bind fun high => (Text.hexValue? b).bind fun low =>
      let byte := high * 16 + low
      (pending.elim (OpenEscape.first? byte) (OpenEscape.next? · byte)).bind fun escape =>
        if escape.left = 0 then (unescapeTag? none rest).map (escape.char? :: ·)
        else unescapeTag? (some escape) rest
  | c :: rest =>
    if pending.isSome ∨ c = '%' then none else (unescapeTag? none rest).map (some c :: ·)
termination_by s => s.length

/-- What counts of a tag: a zero byte ends it. -/
def Tag.ofChars (chars : List (Option Char)) : Tag :=
  ⟨chars.takeWhile (· != some '\x00')⟩

/-- The version of a directive, up to nine digits. -/
def readVersion? (c : Cursor) : Option (Nat × Cursor) :=
  let (digits, c) := c.takeWhile Char.isDigit
  if 1 ≤ digits.length ∧ digits.length ≤ 9 then (String.ofList digits).toNat?.map (·, c) else none

/-- The handle of a tag at its exclamation mark: the mark alone, or marks around a word.  A word
that no mark follows is given too. -/
def readHandle (c : Cursor) : List Char × Cursor :=
  let (word, c) := (c.advance 1).takeWhile isWordChar
  if c.sees '!' then ('!' :: word ++ ['!'], c.advance 1) else ('!' :: word, c)

/-- Whether a handle has a mark at both ends. -/
def isNamedHandle (handle : List Char) : Bool :=
  2 ≤ handle.length && handle.getLast? == some '!'

/-- The rest of a tag behind `start`, which belongs to it; at least one character of both. -/
def readSuffix? (full : Bool) (start : List Char) (c : Cursor) : Option (Tag × Cursor) :=
  let (run, c) := c.takeWhile (if full then isFullTagChar else isTagChar)
  if start.isEmpty ∧ run.isEmpty then none
  else (unescapeTag? none run).map fun suffix =>
    (.ofChars ((start.drop 1).map some ++ suffix), c)

/-- What may follow a tag: a gap, and a comma inside flow collections. -/
def endsTag (inFlow : Bool) (c : Cursor) : Bool :=
  atGap c.rest || (inFlow && c.sees ',')

/-- A tag that starts here, without what follows it. -/
def readTagBody? (c : Cursor) : Option (Token × Cursor) :=
  if (c.advance 1).sees '<' then
    (readSuffix? true [] (c.advance 2)).bind fun (suffix, c) =>
      if c.sees '>' then some (.tag "" suffix, c.advance 1) else none
  else
    let (handle, c) := readHandle c
    if isNamedHandle handle then
      (readSuffix? false [] c).map fun (suffix, c) => (.tag (String.ofList handle) suffix, c)
    else
      (readSuffix? false handle c).map fun (suffix, c) =>
        (if suffix.chars.isEmpty then .tag "" (.ofText "!") else .tag "!" suffix, c)

/-- Reads a tag. -/
def readTag? (inFlow : Bool) (c : Cursor) : Option (Token × Cursor) :=
  (readTagBody? c).bind fun (token, c) => if endsTag inFlow c then some (token, c) else none

/-- Reads the rest of a `%YAML` directive. -/
def readVersionDirective? (c : Cursor) : Option (Token × Cursor) := do
  let (major, c) ← readVersion? (c.skipWhile isSpace)
  if !c.sees '.' then none
  let (minor, c) ← readVersion? (c.advance 1)
  return (.versionDirective major minor, c)

/-- Reads the rest of a `%TAG` directive. -/
def readTagDirective? (c : Cursor) : Option (Token × Cursor) := do
  let c := c.skipWhile isSpace
  if !c.sees '!' then none
  let (handle, c) := readHandle c
  if !(handle == ['!'] || isNamedHandle handle) then none
  if !(c.rest.head?.map isSpace).getD false then none
  let (meaning, c) ← readSuffix? true [] (c.skipWhile isSpace)
  if !atGap c.rest then none
  return (.tagDirective (String.ofList handle) meaning, c)

/-- Reads a directive at its percent sign, up to the end of its line. -/
def readDirective? (c : Cursor) : Option (Token × Cursor) := do
  let (name, c) := (c.advance 1).takeWhile isWordChar
  if !atGap c.rest then none
  let (token, c) ←
    if name = ['Y', 'A', 'M', 'L'] then readVersionDirective? c
    else if name = ['T', 'A', 'G'] then readTagDirective? c
    else none
  return (token, ← c.finishLine?)

/-- Reads the name of an anchor or an alias behind its mark. -/
def readName? (c : Cursor) : Option (String × Cursor) :=
  let (name, c) := c.takeWhile isWordChar
  let ends := atGap c.rest ||
    (c.rest.head?.map ['?', ':', ',', ']', '}', '%', '@', '`'].contains).getD false
  if name.isEmpty ∨ !ends then none else some (String.ofList name, c)

end EventGateway.Yaml
