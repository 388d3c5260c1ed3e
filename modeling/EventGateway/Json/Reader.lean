import EventGateway.Draft
import EventGateway.Json.Numeral

/-!
# Reading JSON

`Json.read?` reads a text as a draft.  A text that breaks the grammar is refused; a part that only
cannot be kept, such as a number out of range, half of a surrogate pair or a value below too many
levels, becomes an unreadable part.
-/

namespace EventGateway.Json

/-- Lists and objects may stand inside each other this many levels deep. -/
def maxDepth : Nat := 127

/-- The four characters that may stand between tokens. -/
def isSpace (c : Char) : Bool :=
  c == ' ' || c == '\n' || c == '\t' || c == '\r'

/-- The text from its first character that is not white space. -/
def skipSpace (s : List Char) : List Char :=
  s.dropWhile isSpace

/-- The number that four hexadecimal digits stand for. -/
def hexUnit? (a b c d : Char) : Option Nat :=
  Text.natOfDigits? 16 [a, b, c, d]

/-- The character that a letter after a backslash stands for. -/
def unescape? : Char → Option Char
  | '"' => some '"'
  | '\\' => some '\\'
  | '/' => some '/'
  | 'b' => some '\x08'
  | 'f' => some '\x0c'
  | 'n' => some '\n'
  | 'r' => some '\r'
  | 't' => some '\t'
  | _ => none

/-- The first half of a surrogate pair. -/
def isHighSurrogate (n : Nat) : Bool :=
  0xD800 ≤ n && n ≤ 0xDBFF

/-- The second half of a surrogate pair. -/
def isLowSurrogate (n : Nat) : Bool :=
  0xDC00 ≤ n && n ≤ 0xDFFF

/-- What has been read of a text: its characters, last one first; the first half of a surrogate
pair, if it came last; and whether every half has found its other half. -/
structure TextSoFar where
  read : List Char
  high : Option Nat
  whole : Bool

namespace TextSoFar

/-- A character follows. -/
def push (t : TextSoFar) (c : Char) : TextSoFar :=
  ⟨c :: t.read, none, t.whole && t.high.isNone⟩

/-- A unit of UTF-16 follows. -/
def pushUnit (t : TextSoFar) (n : Nat) : TextSoFar :=
  if isHighSurrogate n then ⟨t.read, some n, t.whole && t.high.isNone⟩
  else if isLowSurrogate n then
    match t.high with
    | some high =>
        ⟨Char.ofNat (0x10000 + (high - 0xD800) * 0x400 + (n - 0xDC00)) :: t.read, none, t.whole⟩
    | none => ⟨t.read, none, false⟩
  else t.push (Char.ofNat n)

/-- The text ends. -/
def finish (t : TextSoFar) : Draft :=
  if t.whole && t.high.isNone then .text (String.ofList t.read.reverse) else .unreadable

end TextSoFar

/-- Reads a text up to its closing quote. -/
def readText? (t : TextSoFar) : List Char → Option (Draft × List Char)
  | [] => none
  | '"' :: rest => some (t.finish, rest)
  | '\\' :: 'u' :: a :: b :: c :: d :: rest => (hexUnit? a b c d).bind fun n =>
      readText? (t.pushUnit n) rest
  | '\\' :: c :: rest => (unescape? c).bind fun c => readText? (t.push c) rest
  | c :: rest => if c.toNat < 32 then none else readText? (t.push c) rest

/-- A list or an object, unless there are too many levels around it. -/
def nested (depth : Nat) (d : Draft) : Draft :=
  if depth = 0 then .unreadable else d

mutual

/-- Reads a value.  `depth` levels may still be opened. -/
def readValue? : (fuel depth : Nat) → List Char → Option (Draft × List Char)
  | 0, _, _ => none
  | fuel + 1, depth, s =>
    match skipSpace s with
    | 'n' :: 'u' :: 'l' :: 'l' :: rest => some (.null, rest)
    | 't' :: 'r' :: 'u' :: 'e' :: rest => some (.bool true, rest)
    | 'f' :: 'a' :: 'l' :: 's' :: 'e' :: rest => some (.bool false, rest)
    | '"' :: rest => readText? ⟨[], none, true⟩ rest
    | '[' :: rest =>
      match skipSpace rest with
      | ']' :: rest => some (nested depth (.list []), rest)
      | rest => (readItems? fuel (depth - 1) rest).map fun (items, rest) =>
          (nested depth (.list items), rest)
    | '{' :: rest =>
      match skipSpace rest with
      | '}' :: rest => some (nested depth (.map []), rest)
      | rest => (readMembers? fuel (depth - 1) rest).map fun (entries, rest) =>
          (nested depth (.map entries), rest)
    | rest =>
      (Numeral.read? rest).map fun (numeral, rest) =>
        (match numeral.value? with
          | some n => .number n
          | none => .unreadable, rest)

/-- Reads items up to the closing bracket. -/
def readItems? : (fuel depth : Nat) → List Char → Option (List Draft × List Char)
  | 0, _, _ => none
  | fuel + 1, depth, s =>
    (readValue? fuel depth s).bind fun (item, rest) =>
      match skipSpace rest with
      | ',' :: rest => (readItems? fuel depth rest).map fun (items, rest) => (item :: items, rest)
      | ']' :: rest => some ([item], rest)
      | _ => none

/-- Reads members up to the closing brace. -/
def readMembers? : (fuel depth : Nat) → List Char → Option (List (Draft × Draft) × List Char)
  | 0, _, _ => none
  | fuel + 1, depth, s =>
    match skipSpace s with
    | '"' :: rest =>
      (readText? ⟨[], none, true⟩ rest).bind fun (key, rest) =>
        match skipSpace rest with
        | ':' :: rest =>
          (readValue? fuel depth rest).bind fun (value, rest) =>
            match skipSpace rest with
            | ',' :: rest =>
              (readMembers? fuel depth rest).map fun (entries, rest) =>
                ((key, value) :: entries, rest)
            | '}' :: rest => some ([(key, value)], rest)
            | _ => none
        | _ => none
    | _ => none

end

/-- Reads a text that holds one JSON value and nothing else but blanks. -/
def readChars? (s : List Char) : Option Draft :=
  match readValue? (2 * s.length + 2) maxDepth s with
  | some (draft, rest) => if (skipSpace rest).isEmpty then some draft else none
  | none => none

/-- `readChars?` on strings. -/
def read? (text : String) : Option Draft :=
  readChars? text.toList

end EventGateway.Json
