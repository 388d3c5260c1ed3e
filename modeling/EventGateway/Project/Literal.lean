import EventGateway.Json.Quoted

/-!
# String literals of Go

An interpreted literal stands between double quotes and has escapes; every JSON string is one, with
the same meaning.  A raw literal stands between backquotes and cannot hold one, so a text with
backquotes is written as several literals, joined by plus signs.
-/

namespace EventGateway.Project

/-- The quote of raw literals. -/
def backquote : Char := Char.ofNat 96

/-- A text as an interpreted literal. -/
def interpreted (s : String) : String :=
  Json.quoted s

/-- How a character is written between backquotes.  A backquote ends the literal, stands in an
interpreted one, and starts another literal. -/
def rawChar (c : Char) : List Char :=
  if c = backquote then [c, ' ', '+', ' ', '"', c, '"', ' ', '+', ' ', c] else [c]

/-- A text as a raw literal, or several. -/
def raw (s : String) : String :=
  String.ofList (backquote :: s.toList.flatMap rawChar ++ [backquote])

end EventGateway.Project
