import EventGateway.Yaml.BlockText
import EventGateway.Yaml.Tag

/-!
# From characters to tokens

`Token.scan?` cuts a text into its tokens.  In block style, a key is known as one only when the
colon behind it comes, so a reader remembers for every level of flow collections where a key may
have started, and puts the token of the key there afterwards.  Such a key has to stand on one line
and may be at most 1024 bytes long as it is written.
-/

namespace EventGateway.Yaml

/-- A place where a key may have started. -/
structure KeyStart where
  /-- How many tokens stand before it. -/
  position : Nat
  place : Place
  /-- Whether the line makes no sense unless a key starts here. -/
  required : Bool

/-- The state of a reader. -/
structure Lexer where
  cursor : Cursor
  /-- The tokens so far, last one first, and how many there are. -/
  tokens : List Token := []
  count : Nat := 0
  /-- The column of the innermost block collection, and those of the ones around it. -/
  indent : Int := -1
  outer : List Int := []
  /-- The start of a key in every open flow collection, innermost first, and at last outside of
  them. -/
  keys : List (Option KeyStart) := [none]
  /-- How many flow collections are open. -/
  flow : Nat := 0
  /-- Whether a key may start here. -/
  keyAllowed : Bool := true

namespace Lexer

/-- Whether the reader is inside brackets. -/
def inFlow (l : Lexer) : Bool :=
  0 < l.flow

/-- The column of what comes next. -/
def column (l : Lexer) : Nat :=
  l.cursor.place.column

/-- Adds a token at the end. -/
def emit (l : Lexer) (t : Token) : Lexer :=
  { l with tokens := t :: l.tokens, count := l.count + 1 }

/-- Adds a token at an earlier position. -/
def emitAt (l : Lexer) (position : Nat) (t : Token) : Lexer :=
  { l with tokens := l.tokens.insertIdx (l.count - position) t, count := l.count + 1 }

/-- The reader at another place. -/
def goTo (l : Lexer) (c : Cursor) : Lexer :=
  { l with cursor := c }

/-- The reader some characters further on. -/
def advance (l : Lexer) (n : Nat) : Lexer :=
  l.goTo (l.cursor.advance n)

/-- The reader, told whether a key may follow. -/
def allowKey (l : Lexer) (allowed : Bool) : Lexer :=
  { l with keyAllowed := allowed }

/-- Skips blanks, comments and empty lines.  Where a key may start outside flow collections, a tab
is no blank. -/
def skipBlanks (keyAllowed : Bool) (inFlow : Bool) (comment : Bool) (p : Place) :
    List Char → Cursor × Bool
  | [] => (⟨[], p⟩, keyAllowed)
  | x :: rest =>
    if isBreak x then skipBlanks (keyAllowed || !inFlow) inFlow false p.nextLine rest
    else if comment ∨ x = '#' then skipBlanks keyAllowed inFlow true (p.next x) rest
    else if x = ' ' ∨ (x = '\t' ∧ (inFlow ∨ !keyAllowed)) ∨ (x = byteOrderMark ∧ p.column = 0) then
      skipBlanks keyAllowed inFlow false (p.next x) rest
    else (⟨x :: rest, p⟩, keyAllowed)

/-- Goes to the start of the next token. -/
def toNextToken (l : Lexer) : Lexer :=
  let (cursor, keyAllowed) :=
    skipBlanks l.keyAllowed l.inFlow false l.cursor.place l.cursor.rest
  { l with cursor, keyAllowed }

/-- Whether a key that started there can still be one. -/
def isFresh (l : Lexer) (k : KeyStart) : Bool :=
  let here := l.cursor.place
  k.place.line == here.line && here.offset ≤ k.place.offset + 1024

/-- Gives up the starts of keys that can no longer be ones; a required one must not be given up. -/
def dropStaleKeys? (l : Lexer) : Option Lexer := do
  let keys ← l.keys.mapM fun key? =>
    match key? with
    | some k => if l.isFresh k then some (some k) else if k.required then none else some none
    | none => some none
  return { l with keys }

/-- Gives up the start of a key in the innermost collection. -/
def dropKey? (l : Lexer) : Option Lexer :=
  match l.keys with
  | some k :: keys => if k.required then none else some { l with keys := none :: keys }
  | _ => some l

/-- Remembers that a key may start here. -/
def markKey? (l : Lexer) : Option Lexer :=
  if l.keyAllowed then
    l.dropKey?.map fun l =>
      let required := !l.inFlow && l.indent == (l.column : Int)
      { l with keys := some ⟨l.count, l.cursor.place, required⟩ :: l.keys.drop 1 }
  else some l

/-- Opens a block collection at a column, unless one is open there. -/
def openBlock (l : Lexer) (column position : Nat) (t : Token) : Lexer :=
  if !l.inFlow && l.indent < (column : Int) then
    { l.emitAt position t with indent := column, outer := l.indent :: l.outer }
  else l

/-- Ends the block collections that are indented further than a column. -/
def endBlocks (l : Lexer) (column indent : Int) : (outer : List Int) → Lexer
  | [] => { l with indent, outer := [] }
  | next :: outer =>
    if column < indent then endBlocks (l.emit .blockEnd) column next outer
    else { l with indent, outer := next :: outer }

/-- `endBlocks` outside flow collections. -/
def closeBlocks (l : Lexer) (column : Int) : Lexer :=
  if l.inFlow then l else l.endBlocks column l.indent l.outer

/-- A token of some characters before which no key can be pending. -/
def separator? (l : Lexer) (t : Token) (length : Nat) (keyAllowed : Bool) : Option Lexer :=
  l.dropKey?.map fun l => ((l.advance length).emit t).allowKey keyAllowed

/-- A marker of a document, which ends all block collections. -/
def marker? (l : Lexer) (t : Token) : Option Lexer :=
  (l.closeBlocks (-1)).separator? t 3 false

/-- A directive, which ends all block collections. -/
def directive? (l : Lexer) : Option Lexer := do
  let l ← (l.closeBlocks (-1)).dropKey?
  let (t, c) ← readDirective? l.cursor
  return ((l.goTo c).emit t).allowKey false

/-- The start of a flow collection. -/
def openFlow? (l : Lexer) (t : Token) : Option Lexer :=
  l.markKey?.map fun l =>
    { ((l.advance 1).emit t).allowKey true with keys := none :: l.keys, flow := l.flow + 1 }

/-- The end of a flow collection. -/
def closeFlow? (l : Lexer) (t : Token) : Option Lexer :=
  (l.separator? t 1 false).map fun l =>
    if l.inFlow then { l with keys := l.keys.drop 1, flow := l.flow - 1 } else l

/-- The dash of an item. -/
def blockEntry? (l : Lexer) : Option Lexer :=
  if l.inFlow then l.separator? .blockEntry 1 true
  else if !l.keyAllowed then none
  else (l.openBlock l.column l.count .blockSequenceStart).separator? .blockEntry 1 true

/-- The question mark of a key. -/
def key? (l : Lexer) : Option Lexer :=
  if l.inFlow then l.separator? .key 1 false
  else if !l.keyAllowed then none
  else (l.openBlock l.column l.count .blockMappingStart).separator? .key 1 true

/-- The colon of a value.  It makes a key of what has been remembered as the start of one. -/
def value? (l : Lexer) : Option Lexer :=
  match l.keys with
  | some k :: keys =>
    let l := ({ l with keys := none :: keys }).emitAt k.position .key
    some <| (l.openBlock k.place.column k.position .blockMappingStart).advance 1
      |>.emit .value |>.allowKey false
  | _ =>
    if l.inFlow then some (((l.advance 1).emit .value).allowKey false)
    else if !l.keyAllowed then none
    else
      some <| (l.openBlock l.column l.count .blockMappingStart).advance 1
        |>.emit .value |>.allowKey true

/-- A token that may be the start of a key. -/
def keyToken? (l : Lexer) (read : Cursor → Option (Token × Cursor)) : Option Lexer := do
  let l ← l.markKey?
  let (t, c) ← read l.cursor
  return ((l.goTo c).emit t).allowKey false

/-- Reads a text in quotes. -/
def quoted? (l : Lexer) (q : Quote) : Option Lexer :=
  l.keyToken? fun c => (QuotedText.read? q (c.advance 1)).map fun (text, c) =>
    (.scalar text .quoted, c)

/-- Reads a text that is written as a block. -/
def block? (l : Lexer) (style : Style) : Option Lexer := do
  let l ← l.dropKey?
  let (text, c) ← BlockText.read? (style == .folded) l.indent (l.cursor.advance 1)
  return ((l.goTo c).emit (.scalar text style)).allowKey true

/-- A plain scalar.  If it is followed by the end of a line, a key may start behind it. -/
def plain? (l : Lexer) : Option Lexer := do
  let l ← l.markKey?
  let (t, c) ← PlainText.read? l.inFlow (l.indent + 1) l.cursor
  return ((l.goTo c).emit (.scalar t.text .plain)).allowKey t.gap.hasBreak

/-- Characters with which no plain scalar starts. -/
def indicators : List Char :=
  ['#', '&', '*', '!', '|', '>', '\'', '"', '%', '@', '`']

/-- Whether a plain scalar can start with these characters. -/
def startsPlain (inFlow : Bool) : List Char → Bool
  | [] => false
  | x :: rest =>
    if x = '-' then !(rest.head?.map isSpace).getD false
    else if x = '?' ∨ x = ':' then !inFlow && !atGap rest
    else !isSpace x && !isFlowIndicator x && !indicators.contains x

/-- Reads the token that starts at the cursor. -/
def readToken? (l : Lexer) (x : Char) (rest : List Char) : Option Lexer :=
  let start := l.column == 0
  let inFlow := l.inFlow
  if start && x == '%' then l.directive?
  else if start && atMarker '-' (x :: rest) then l.marker? .documentStart
  else if start && atMarker '.' (x :: rest) then l.marker? .documentEnd
  else if x = '[' then l.openFlow? .flowSequenceStart
  else if x = '{' then l.openFlow? .flowMappingStart
  else if x = ']' then l.closeFlow? .flowSequenceEnd
  else if x = '}' then l.closeFlow? .flowMappingEnd
  else if x = ',' then l.separator? .flowEntry 1 true
  else if x == '-' && atGap rest then l.blockEntry?
  else if x == '?' && (inFlow || atGap rest) then l.key?
  else if x == ':' && (inFlow || atGap rest) then l.value?
  else if x = '*' then l.keyToken? fun c => (readName? (c.advance 1)).map fun (name, c) =>
    (.alias name, c)
  else if x = '&' then l.keyToken? fun c => (readName? (c.advance 1)).map fun (name, c) =>
    (.anchor name, c)
  else if x = '!' then l.keyToken? (readTag? inFlow)
  else if x == '|' && !inFlow then l.block? .literal
  else if x == '>' && !inFlow then l.block? .folded
  else if x = '\'' then l.quoted? .single
  else if x = '"' then l.quoted? .double
  else if startsPlain inFlow (x :: rest) then l.plain?
  else none

/-- Ends the text. -/
def finish? (l : Lexer) : Option Lexer :=
  (l.closeBlocks (-1)).dropKey?

/-- Reads all tokens; every one has at least one character. -/
def run? : (fuel : Nat) → Lexer → Option Lexer
  | 0, _ => none
  | fuel + 1, l =>
    l.toNextToken.dropStaleKeys?.bind fun l =>
      let l := l.closeBlocks l.column
      match l.cursor.rest with
      | [] => l.finish?
      | x :: rest => (l.readToken? x rest).bind (run? fuel)

end Lexer

/-- The tokens of a text, unless it is malformed. -/
def Token.scan? (text : String) : Option (List Token) :=
  let chars := text.toList
  if chars.all isAllowed then
    let s := unifyBreaks false chars
    (Lexer.run? (s.length + 1) { cursor := ⟨s, {}⟩ }).map fun l => l.tokens.reverse
  else none

end EventGateway.Yaml
