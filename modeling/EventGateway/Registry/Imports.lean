import EventGateway.Text.Split

/-!
# The import registry

An import is `module@version` or `module@version:/sub/path`; a plain module has no version.  Its key
is the module path without the version.  The registry keeps imports in order, one for each key: the
first registration of a key counts.
-/

namespace EventGateway

namespace Import

/-- The text without the slashes at its end. -/
def trimSlashes (s : List Char) : List Char :=
  (s.reverse.dropWhile (· == '/')).reverse

/-- The module path of an import, without its version. -/
def keyChars (s : List Char) : List Char :=
  match Text.splitOnce ['@'] s with
  | none => s
  | some (module, rest) =>
    match Text.splitOnce [':', '/'] rest with
    | none => module
    | some (_, sub) => trimSlashes module ++ '/' :: sub

/-- `keyChars` on strings. -/
def key (text : String) : String :=
  String.ofList (keyChars text.toList)

end Import

/-- Imports with different keys. -/
structure ImportRegistry where
  imports : List String := []
deriving DecidableEq, Repr

namespace ImportRegistry

instance : EmptyCollection ImportRegistry := ⟨{}⟩

/-- Whether a key is taken. -/
def contains (r : ImportRegistry) (key : String) : Bool :=
  r.imports.any (Import.key · == key)

/-- Registers an import: adds it unless its key is taken, and tells whether it was added. -/
def register (r : ImportRegistry) (text : String) : ImportRegistry × Bool :=
  if r.contains (Import.key text) then (r, false) else (⟨r.imports ++ [text]⟩, true)

/-- The registry after a registration. -/
def insert (r : ImportRegistry) (text : String) : ImportRegistry :=
  (r.register text).1

end ImportRegistry

end EventGateway
