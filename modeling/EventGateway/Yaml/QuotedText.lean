import EventGateway.Text.Digits
import EventGateway.Yaml.PlainText

/-!
# Quoted scalars

Between single quotes only the quote itself is written in another way, twice; between double quotes
a backslash starts an escape.  Gaps are folded as in plain scalars, and an escaped line end
vanishes.
-/

namespace EventGateway.Yaml

/-- The two kinds of quotes. -/
inductive Quote where
  | single
  | double
deriving DecidableEq, Repr

/-- The character that opens and closes. -/
def Quote.char : Quote → Char
  | single => '\''
  | double => '"'

/-- Where the reader of a quoted scalar stands. -/
inductive QuotedState where
  /-- Between characters. -/
  | text
  /-- Behind a single quote, which ends the scalar unless another one follows. -/
  | quote
  /-- Behind a backslash. -/
  | escape
  /-- Behind a backslash and a letter that asks for the code of a character: the digits still to
  come, and the number that the digits so far stand for. -/
  | code (left : Nat) (number : Nat)

/-- The character that an escape of one letter stands for. -/
def unescape? : Char → Option Char
  | '0' => some '\x00'
  | 'a' => some '\x07'
  | 'b' => some '\x08'
  | 't' => some '\t'
  | '\t' => some '\t'
  | 'n' => some '\n'
  | 'v' => some '\x0b'
  | 'f' => some '\x0c'
  | 'r' => some '\r'
  | 'e' => some '\x1b'
  | ' ' => some ' '
  | '"' => some '"'
  | '/' => some '/'
  | '\\' => some '\\'
  | 'N' => some '\u0085'
  | '_' => some '\u00a0'
  | 'L' => some '\u2028'
  | 'P' => some '\u2029'
  | _ => none

/-- How many hexadecimal digits follow a letter behind a backslash. -/
def codeLength? : Char → Option Nat
  | 'x' => some 2
  | 'u' => some 4
  | 'U' => some 8
  | _ => none

/-- The character with a code. -/
def charOfCode? (n : Nat) : Option Char :=
  if (0xD800 ≤ n ∧ n ≤ 0xDFFF) ∨ 0x10FFFF < n then none else some (Char.ofNat n)

namespace QuotedText

/-- Reads on up to the closing quote.  `read` holds the characters up to the gap, last one first. -/
def scan? (quote : Quote) (state : QuotedState) (read : List Char) (gap : Gap) (p : Place) :
    (rest : List Char) → Option (List Char × Cursor)
  | [] =>
    match state with
    | .quote => some (gap.folded ++ read, ⟨[], p⟩)
    | _ => none
  | x :: rest =>
    match state with
    | .quote =>
      if x = '\'' then scan? quote .text ('\'' :: (gap.folded ++ read)) .none (p.next x) rest
      else some (gap.folded ++ read, ⟨x :: rest, p⟩)
    | .escape =>
      if isBreak x then scan? quote .text read (.breaks [] []) p.nextLine rest
      else
        match codeLength? x with
        | some length => scan? quote (.code (length - 1) 0) read .none (p.next x) rest
        | none => (unescape? x).bind fun c => scan? quote .text (c :: read) .none (p.next x) rest
    | .code left number =>
      (Text.hexValue? x).bind fun digit =>
        let number := number * 16 + digit
        match left with
        | 0 => (charOfCode? number).bind fun c =>
            scan? quote .text (c :: read) .none (p.next x) rest
        | left + 1 => scan? quote (.code left number) read .none (p.next x) rest
    | .text =>
      if isBreak x then scan? quote .text read (gap.lineEnd x) p.nextLine rest
      else if isSpace x then scan? quote .text read (gap.blank x) (p.next x) rest
      else if p.column = 0 ∧ atAnyMarker (x :: rest) then none
      else if x = quote.char then
        match quote with
        | .single => scan? quote .quote read gap (p.next x) rest
        | .double => some (gap.folded ++ read, ⟨rest, p.next x⟩)
      else if quote = .double ∧ x = '\\' then
        scan? quote .escape (gap.folded ++ read) .none (p.next x) rest
      else scan? quote .text (x :: (gap.folded ++ read)) .none (p.next x) rest

/-- Reads a quoted scalar behind its opening quote. -/
def read? (quote : Quote) (c : Cursor) : Option (String × Cursor) :=
  (scan? quote .text [] .none c.place c.rest).map fun (read, c) =>
    (String.ofList read.reverse, c)

end QuotedText

end EventGateway.Yaml
