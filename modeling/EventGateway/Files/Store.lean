/-!
# Files

A path is a text cut at its slashes; no part is dropped, so that a path can be written again as it
was given.  `FileStore` lists what the gateway does with files.
-/

namespace EventGateway

/-- The parts of a path, which are empty between two slashes and behind the last one. -/
structure Path where
  parts : List String
deriving DecidableEq, Repr

namespace Path

/-- Cuts a text at its slashes. -/
def cut : List Char → List (List Char)
  | [] => [[]]
  | c :: rest =>
    if c = '/' then [] :: cut rest
    else
      match cut rest with
      | [] => [[c]]
      | first :: others => (c :: first) :: others

/-- A path is written with slashes between its parts. -/
def ofText (text : String) : Path :=
  ⟨(cut text.toList).map String.ofList⟩

/-- The text of a path. -/
def text (p : Path) : String :=
  "/".intercalate p.parts

/-- Whether a path starts at the root. -/
def isAbsolute (p : Path) : Bool :=
  p.parts.head? == some "" && p.parts.length > 1

/-- The path of a name in a directory. -/
def child (p : Path) (name : String) : Path :=
  if p.parts.getLast? = some "" then ⟨p.parts.dropLast ++ [name]⟩ else ⟨p.parts ++ [name]⟩

end Path

/-- Files and directories in which computations of `m` take place. -/
class FileStore (m : Type → Type) where
  /-- The text of a file; none if there is no file or it holds no text. -/
  readText? : Path → m (Option String)
  /-- Creates a directory and those around it; whether it is there. -/
  createDirectories : Path → m Bool
  /-- Writes a text into a file, which is created or overwritten; whether that was possible. -/
  write : Path → String → m Bool
  /-- Renames a file, which takes the place of another one; whether that was possible. -/
  rename : Path → Path → m Bool
  /-- Removes a file, if it is there. -/
  remove : Path → m Unit

end EventGateway
