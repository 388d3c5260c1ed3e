import EventGateway.Files.Store
import EventGateway.Project.Source

/-!
# Writing a project

A project is written in two steps: every file is first written under another name beside its place,
and only when all are there they are renamed.  If a step fails, the files that have been written and
not renamed are removed.
-/

namespace EventGateway

/-- The two kinds of main files. -/
inductive OutputKind where
  /-- A program that holds the descriptor. -/
  | apiApp
  /-- The descriptor itself. -/
  | descriptor
deriving DecidableEq, Repr

namespace OutputKind

def all : List OutputKind :=
  [apiApp, descriptor]

/-- The name by which a kind is chosen. -/
def identifier : OutputKind → String
  | apiApp => "flogoapiapp"
  | descriptor => "flogodescriptor"

/-- The kind with a name. -/
def ofIdentifier? (name : String) : Option OutputKind :=
  all.find? (·.identifier == name)

/-- The name of the main file. -/
def fileName : OutputKind → String
  | apiApp => "app.go"
  | descriptor => "flogo.json"

end OutputKind

namespace Project

/-- The name of the support code. -/
def supportName : String := "support.go"

/-- The files of a project, by name. -/
def files (c : Compilation) (kind : OutputKind) : List (String × String) :=
  let main :=
    match kind with
    | .apiApp => c.appSource
    | .descriptor => c.descriptor
  [(kind.fileName, main), (supportName, c.supportSource)]

/-- The name under which a file is first written. -/
def stagingName (name : String) : String :=
  "." ++ name ++ ".tmp"

variable {m : Type → Type} [Monad m] [FileStore m]

/-- Removes the staged files of some names. -/
def discard (directory : Path) : (names : List String) → m Unit
  | [] => pure ()
  | name :: names => do
    FileStore.remove (directory.child (stagingName name))
    discard directory names

/-- Writes files under their staging names; `staged` are those that have been written before. -/
def stageAll (directory : Path) (staged : List String) : (files : List (String × String)) → m Bool
  | [] => pure true
  | (name, content) :: files => do
    if ← FileStore.write (directory.child (stagingName name)) content then
      stageAll directory (staged ++ [name]) files
    else
      discard directory staged
      return false

/-- Gives staged files their names. -/
def installAll (directory : Path) : (names : List String) → m Bool
  | [] => pure true
  | name :: names => do
    if ← FileStore.rename (directory.child (stagingName name)) (directory.child name) then
      installAll directory names
    else
      discard directory (name :: names)
      return false

/-- Writes files into a directory, and tells their paths. -/
def writeFiles (directory : Path) (files : List (String × String)) : m (Option (List Path)) := do
  let names := files.map Prod.fst
  if !(← FileStore.createDirectories directory) then return none
  if !(← stageAll directory [] files) then return none
  if !(← installAll directory names) then return none
  return some (names.map directory.child)

/-- Writes the project of a compilation into a directory. -/
def generate (c : Compilation) (directory : Path) (kind : OutputKind) : m (Option (List Path)) :=
  writeFiles directory (files c kind)

end Project

end EventGateway
