import EventGateway.Json.Basic
import EventGateway.Json.Quoted

/-!
# Writing JSON

Two forms: the compact one has no blanks; the indented one puts every item and member on a line of
its own, two blanks further in than its list or object, and leaves empty lists and objects on one
line.
-/

namespace EventGateway.Json

mutual

/-- The compact form. -/
def compactChars : Json → List Char
  | null => ['n', 'u', 'l', 'l']
  | bool true => ['t', 'r', 'u', 'e']
  | bool false => ['f', 'a', 'l', 's', 'e']
  | number n => n.chars
  | text s => quote s.toList
  | list items => '[' :: compactItems items ++ [']']
  | object members => '{' :: compactMembers members ++ ['}']

/-- Items with commas between them. -/
def compactItems : List Json → List Char
  | [] => []
  | [item] => compactChars item
  | item :: items => compactChars item ++ ',' :: compactItems items

/-- Members with commas between them and no blanks. -/
def compactMembers : List (String × Json) → List Char
  | [] => []
  | [(name, value)] => quote name.toList ++ ':' :: compactChars value
  | (name, value) :: members =>
      quote name.toList ++ ':' :: compactChars value ++ ',' :: compactMembers members

end

/-- The compact form as a string. -/
def compact (j : Json) : String :=
  String.ofList j.compactChars

/-- A line break and the indentation of a level. -/
def newLine (level : Nat) : List Char :=
  '\n' :: List.replicate (2 * level) ' '

mutual

/-- The indented form of a value that stands at some level. -/
def prettyChars (level : Nat) : Json → List Char
  | null => ['n', 'u', 'l', 'l']
  | bool true => ['t', 'r', 'u', 'e']
  | bool false => ['f', 'a', 'l', 's', 'e']
  | number n => n.chars
  | text s => quote s.toList
  | list [] => ['[', ']']
  | list (item :: items) => '[' :: prettyItems (level + 1) (item :: items) ++ newLine level ++ [']']
  | object [] => ['{', '}']
  | object (member :: members) =>
      '{' :: prettyMembers (level + 1) (member :: members) ++ newLine level ++ ['}']

/-- Items with commas between them, each on a line of its own. -/
def prettyItems (level : Nat) : List Json → List Char
  | [] => []
  | [item] => newLine level ++ prettyChars level item
  | item :: items => newLine level ++ prettyChars level item ++ ',' :: prettyItems level items

/-- Members with commas between them, each on a line of its own. -/
def prettyMembers (level : Nat) : List (String × Json) → List Char
  | [] => []
  | [(name, value)] => newLine level ++ quote name.toList ++ ':' :: ' ' :: prettyChars level value
  | (name, value) :: members =>
    newLine level ++ quote name.toList ++ ':' :: ' ' :: prettyChars level value ++
      ',' :: prettyMembers level members

end

/-- The indented form as a string. -/
def pretty (j : Json) : String :=
  String.ofList (j.prettyChars 0)

end EventGateway.Json
