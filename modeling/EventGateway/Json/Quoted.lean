/-!
# Quoted texts

A text in double quotes, as JSON writes it: the quote, the backslash and the characters below U+0020
are escaped, the five common control characters with a letter and the others with four hexadecimal
digits; every other character stands for itself.  Read as an interpreted string literal of Go, the
quoted text denotes the same text.
-/

namespace EventGateway.Json

/-- A hexadecimal digit, lower case. -/
def hexDigit (n : Nat) : Char :=
  if n < 10 then Char.ofNat (48 + n) else Char.ofNat (87 + n)

/-- How a character is written between quotes. -/
def escape (c : Char) : List Char :=
  if c = '"' then ['\\', '"']
  else if c = '\\' then ['\\', '\\']
  else if c = '\n' then ['\\', 'n']
  else if c = '\r' then ['\\', 'r']
  else if c = '\t' then ['\\', 't']
  else if c = '\x08' then ['\\', 'b']
  else if c = '\x0c' then ['\\', 'f']
  else if c.toNat < 32 then ['\\', 'u', '0', '0', hexDigit (c.toNat / 16), hexDigit (c.toNat % 16)]
  else [c]

/-- The text between quotes. -/
def quote (s : List Char) : List Char :=
  '"' :: s.flatMap escape ++ ['"']

/-- `quote` on strings. -/
def quoted (s : String) : String :=
  String.ofList (quote s.toList)

end EventGateway.Json
