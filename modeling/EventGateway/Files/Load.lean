import EventGateway.AsyncApi.Reader
import EventGateway.Catalog
import EventGateway.Files.Store

/-!
# Loading files

Documents and catalogs from files.  A file that is not there or holds no text is unreadable.
-/

namespace EventGateway

variable {m : Type → Type} [Monad m] [FileStore m]

/-- Reads the document of a file. -/
def AsyncApi.Document.load (p : Path) : m (Except Fault AsyncApi.Document) := do
  match ← FileStore.readText? p with
  | some text => return AsyncApi.Document.read text
  | none => return .error .documentUnreadable

/-- Reads the catalog of a file. -/
def Catalog.load (p : Path) : m (Except Fault Catalog) := do
  match ← FileStore.readText? p with
  | some text => return Catalog.read text
  | none => return .error .catalogUnreadable

end EventGateway
