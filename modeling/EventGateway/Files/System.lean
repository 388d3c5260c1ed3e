import EventGateway.Files.Store

/-!
# A file system

Files, directories and links as a value, as POSIX systems have them.  A path starts at the root or
in the current directory and is followed part by part, upwards where a part is `..` and through
symbolic links, of which there may be only so many on the way.  A file can have several names, and
what is written through one of them shows under all.

Writing follows a link at the end of a path; renaming and removing are about the name itself.
Writing onto a directory and renaming onto one fail, and so does everything below a file; renaming
onto a file or a link replaces it.  A device may run out of room, and what has been written until
then stays.  Names and paths have a largest length, and a path with a zero character in it leads
nowhere.
-/

namespace EventGateway

/-- The number of a file, which all names of the file share. -/
abbrev Node := Nat

/-- What a name in a directory stands for. -/
inductive Entry where
  | directory
  | file (node : Node)
  /-- A symbolic link. -/
  | link (target : Path)
deriving DecidableEq, Repr

/-- The number of the file that a name stands for. -/
def Entry.node? : Entry → Option Node
  | file node => some node
  | _ => none

/-- What shows of an entry. -/
inductive Sight where
  | directory
  | file (content : ByteArray)
  | link (target : Path)

/-- Files look alike if they have the same bytes. -/
instance : DecidableEq Sight
  | .directory, .directory => isTrue rfl
  | .file content, .file content' =>
      if same : content.data = content'.data then
        isTrue (congrArg Sight.file (ByteArray.ext same))
      else isFalse fun eq => same (congrArg ByteArray.data (Sight.file.inj eq))
  | .link target, .link target' =>
      if same : target = target' then isTrue (congrArg Sight.link same)
      else isFalse fun eq => same (Sight.link.inj eq)
  | .directory, .file _ | .directory, .link _ | .file _, .directory | .file _, .link _
  | .link _, .directory | .link _, .file _ => isFalse nofun

/-- A place in a file system: the names on the way from its root. -/
abbrev Location := List String

/-- Files, directories and links. -/
structure FileSystem where
  /-- What is at which place; the root is a directory that is always there. -/
  entries : List (Location × Entry) := []
  /-- What the files hold; the first content of a file counts. -/
  contents : List (Node × ByteArray) := []
  /-- Where paths start that do not start at the root. -/
  current : Location := []
  /-- How many bytes can be written before the device refuses more, if it ever does. -/
  room : Option Nat := none

namespace FileSystem

/-! ## Places -/

/-- What is at a place. -/
def find? (fs : FileSystem) (l : Location) : Option Entry :=
  if l.isEmpty then some .directory else fs.entries.lookup l

/-- Whether there is a directory at a place. -/
def isDirectory (fs : FileSystem) (l : Location) : Bool :=
  fs.find? l == some .directory

/-- What a file holds. -/
def content (fs : FileSystem) (node : Node) : ByteArray :=
  (fs.contents.lookup node).getD .empty

/-- What shows of an entry here. -/
def look (fs : FileSystem) : Entry → Sight
  | .directory => .directory
  | .file node => .file (fs.content node)
  | .link target => .link target

/-- What shows at a place. -/
def see? (fs : FileSystem) (l : Location) : Option Sight :=
  (fs.find? l).map fs.look

/-- The file system without what is at a place. -/
def erase (fs : FileSystem) (l : Location) : FileSystem :=
  { fs with entries := fs.entries.filter (·.1 != l) }

/-- The file system with something else at a place. -/
def put (fs : FileSystem) (l : Location) (e : Entry) : FileSystem :=
  { fs with entries := (l, e) :: (fs.erase l).entries }

/-! ## Paths -/

/-- How many bytes a name may have. -/
def maxNameSize : Nat := 255

/-- How many bytes a path may have. -/
def maxPathSize : Nat := 4095

/-- How many links there may be on a way. -/
def maxLinks : Nat := 40

/-- Whether a part of a path is short enough for a name. -/
def isName (part : String) : Bool :=
  part.utf8ByteSize ≤ maxNameSize

/-- Whether a path can lead anywhere. -/
def isPath (p : Path) : Bool :=
  p.text ≠ "" && p.text.utf8ByteSize ≤ maxPathSize && !p.text.toList.contains '\x00'

/-- Where a path starts that is met at a place. -/
def origin (l : Location) (p : Path) : Location :=
  if p.isAbsolute then [] else l

/-- The place that a part of a path leads to, without regard to links. -/
def step (l : Location) (part : String) : Location :=
  if part = "" ∨ part = "." then l else if part = ".." then l.dropLast else l ++ [part]

/-- Follows one part of a path out of a directory, and the link that it may lead to; with the place
goes the number of links that may still be met.  `depth` bounds how many of them are met inside
each other. -/
def enter (fs : FileSystem) :
    (depth : Nat) → Location × Nat → (part : String) → Option (Location × Nat)
  | depth, (l, links), part =>
    if fs.isDirectory l && isName part then
      match fs.find? (step l part) with
      | some (.link target) =>
        match depth, links with
        | depth + 1, links + 1 =>
          if isPath target then target.parts.foldlM (fs.enter depth) (origin l target, links)
          else none
        | _, _ => none
      | _ => some (step l part, links)
    else none

/-- Follows the parts of a path. -/
def follow? (fs : FileSystem) (start : Location × Nat) (parts : List String) :
    Option (Location × Nat) :=
  parts.foldlM (fs.enter maxLinks) start

/-- Where the parts of a path lead that starts at a place. -/
def reach? (fs : FileSystem) (l : Location) (parts : List String) : Option Location :=
  (fs.follow? (l, maxLinks) parts).map Prod.fst

/-- The place of what a path leads to, through the link that may be at its end. -/
def target? (fs : FileSystem) (p : Path) : Option Location :=
  if isPath p then fs.reach? (origin fs.current p) p.parts else none

/-- A name that stands for itself. -/
abbrev Proper (name : String) : Prop :=
  name ≠ "" ∧ name ≠ "." ∧ name ≠ ".."

/-- The place that a path names, with a link at its end left alone. -/
def slot? (fs : FileSystem) (p : Path) : Option Location :=
  match p.parts.getLast? with
  | none => none
  | some name =>
    if isPath p && isName name && decide (Proper name) then
      ((fs.reach? (origin fs.current p) p.parts.dropLast).filter (fs.isDirectory ·)).map
        (· ++ [name])
    else none

/-! ## Reading -/

/-- The text of a file, if a path leads to a file and its bytes are a text. -/
def readText? (fs : FileSystem) (p : Path) : Option String :=
  match (fs.target? p).bind fs.see? with
  | some (.file content) => String.fromUTF8? content
  | _ => none

/-! ## Directories -/

/-- Whether the rest of a path asks for a directory that is there already. -/
def staysAt (parts : List String) : Bool :=
  parts.contains "." && parts.all fun part => part = "" ∨ part = "."

/-- Creates the directories along the parts of a path, up to one that cannot be created. -/
def createAlong (fs : FileSystem) (start : Location × Nat) :
    (parts : List String) → FileSystem × Bool
  | [] => (fs, true)
  | part :: parts =>
    match fs.find? (step start.1 part) with
    | none =>
      if fs.isDirectory start.1 && isName part && !staysAt parts then
        createAlong (fs.put (step start.1 part) .directory) (step start.1 part, start.2) parts
      else (fs, false)
    | some _ =>
      match (fs.enter maxLinks start part).filter fun next => fs.isDirectory next.1 with
      | some next => createAlong fs next parts
      | none => (fs, false)

/-- Creates what is missing of a directory and of those above it.  The empty path stands for the
current directory, which is there. -/
def createDirectories (fs : FileSystem) (p : Path) : FileSystem × Bool :=
  if p.text = "" then (fs, true)
  else if isPath p then fs.createAlong (origin fs.current p, maxLinks) p.parts
  else (fs, false)

/-! ## Files -/

/-- The number of a file that is not there yet. -/
def fresh (fs : FileSystem) : Node :=
  (fs.entries.filterMap (·.2.node?)).foldr (fun node free => max (node + 1) free) 0

/-- Replaces what a file holds, by as many bytes as there is room for; whether these were all. -/
def fill (fs : FileSystem) (node : Node) (bytes : ByteArray) : FileSystem × Bool :=
  match fs.room with
  | none => ({ fs with contents := (node, bytes) :: fs.contents }, true)
  | some room =>
    if bytes.size ≤ room then
      ({ fs with contents := (node, bytes) :: fs.contents, room := some (room - bytes.size) }, true)
    else
      ({ fs with contents := (node, bytes.extract 0 room) :: fs.contents, room := some 0 }, false)

/-- Writes the file that a path leads to, which is created if it is not there. -/
def write (fs : FileSystem) (p : Path) (text : String) : FileSystem × Bool :=
  match fs.target? p with
  | none => (fs, false)
  | some l =>
    match fs.find? l with
    | none => (fs.put l (.file fs.fresh)).fill fs.fresh text.toUTF8
    | some (.file node) => fs.fill node text.toUTF8
    | _ => (fs, false)

/-- Whether two places hold names of one file. -/
def sameFile (fs : FileSystem) (here there : Location) : Bool :=
  match fs.find? here with
  | some (.file node) => fs.find? there == some (.file node)
  | _ => false

/-- Moves a file or a link, unless a directory is in its way.  If both places hold names of one
file, both stay. -/
def rename (fs : FileSystem) (source target : Path) : FileSystem × Bool :=
  match fs.slot? source, fs.slot? target with
  | some here, some there =>
    match fs.find? here with
    | none | some .directory => (fs, false)
    | some e =>
      if fs.isDirectory there then (fs, false)
      else if fs.sameFile here there then (fs, true)
      else ((fs.erase here).put there e, true)
  | _, _ => (fs, false)

/-- Removes a file or a link; a directory stays. -/
def remove (fs : FileSystem) (p : Path) : FileSystem :=
  match fs.slot? p with
  | some l => if fs.isDirectory l then fs else fs.erase l
  | none => fs

end FileSystem

/-- Computations that work on a file system. -/
abbrev OnFileSystem := StateM FileSystem

instance : FileStore OnFileSystem where
  readText? p := fun fs => (fs.readText? p, fs)
  createDirectories p := fun fs => (fs.createDirectories p).swap
  write p text := fun fs => (fs.write p text).swap
  rename source target := fun fs => (fs.rename source target).swap
  remove p := fun fs => ((), fs.remove p)

end EventGateway
