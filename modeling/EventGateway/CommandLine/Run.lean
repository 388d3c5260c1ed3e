import EventGateway.CommandLine.Arguments
import EventGateway.Compile.Pass
import EventGateway.Files.Load

/-!
# Running the program

The program reads a document, compiles it and writes the project.  It tells what it does line by
line; when it fails, it says in one more line what it was about to do.
-/

namespace EventGateway.CommandLine

open AsyncApi (Document)

/-- The name of the program. -/
def programName : String := "asyncapi-flogo"

/-- The version that the program reports. -/
def programVersion : String := "0.1.0"

/-- What a run leaves behind besides files. -/
structure Report where
  exitCode : Nat
  /-- What is written to the standard output. -/
  output : String
  /-- What could not be done. -/
  failure : Option String
deriving DecidableEq, Repr

/-- Runs write lines and stop at the first failure. -/
abbrev Run (m : Type → Type) := ExceptT String (StateT String m)

variable {m : Type → Type} [Monad m] [FileStore m]

/-- Writes a line. -/
def say (text : String) : Run m Unit :=
  modify fun output => output ++ text ++ "\n"

/-- Writes a line about what is done next. -/
def announce (text : String) : Run m Unit :=
  say ("→ " ++ text)

/-- The result of a computation that may have none; `failure` says what could not be done. -/
def orFail {α : Type} (failure : String) : Option α → Run m α
  | some a => pure a
  | none => throw failure

/-- Does something with files. -/
def onFiles {α : Type} (action : m α) : Run m α :=
  ExceptT.lift (StateT.lift action)

/-- The catalog that is asked for. -/
def loadCatalog (modules : Option String) : Run m Catalog := do
  match modules with
  | none => return .standard
  | some path =>
    announce ("Loading module catalog: " ++ path)
    let catalog ← onFiles (Catalog.load (Path.ofText path))
    orFail ("Failed to load module catalog " ++ path) catalog.toOption

/-- The document that is asked for. -/
def loadDocument (path : String) : Run m Document := do
  announce ("Parsing AsyncAPI document: " ++ path)
  let document ← onFiles (Document.load (Path.ofText path))
  orFail ("Failed to parse " ++ path) document.toOption

/-- The name of a role in reports. -/
def roleName : Role → String
  | .server => "Server"
  | .client => "Client"

/-- Tells about a document. -/
def describeDocument (d : Document) (role : Role) : Run m Unit := do
  say ("  AsyncAPI: " ++ d.asyncapi)
  say ("  Application: " ++ d.appName)
  say ("  Servers: " ++ toString d.servers.size)
  say ("  Channels: " ++ toString d.channels.size)
  say ("  Role: " ++ roleName role)

/-- Tells about an application. -/
def describeApp (app : Flogo.App) : Run m Unit := do
  say "\nTriggers:"
  for t in app.triggers do
    say ("  • " ++ t.id ++ " (" ++ toString t.handlers.length ++ " handlers) " ++ t.ref)
  say "\nImports:"
  for i in app.imports do
    say ("  • " ++ i)

/-- Reads, compiles and writes what is asked for. -/
def perform (r : Request) : Run m Unit := do
  if r.verbose then announce "Verbose mode enabled"
  let catalog ← loadCatalog r.modules
  let document ← loadDocument r.input
  if r.verbose then describeDocument document r.role
  announce "Compiling protocol bindings..."
  let compilation ← orFail "Failed to compile AsyncAPI document"
    (compile document { role := r.role, catalog }).toOption
  let app := compilation.app
  say ("✓ Compiled " ++ toString app.triggers.length ++ " triggers, "
    ++ toString app.resources.length ++ " resources, "
    ++ toString app.properties.length ++ " properties")
  for warning in compilation.warnings do
    say ("⚠ " ++ warning.message)
  if r.verbose then describeApp app
  announce ("Generating " ++ r.kind.identifier ++ " into " ++ r.output)
  let written ← onFiles (Project.generate compilation (Path.ofText r.output) r.kind)
  let paths ← orFail ("Failed to write output to " ++ r.output) written
  say "\n✓ Generation complete!"
  say "\nGenerated files:"
  for path in paths do
    say ("  📄 " ++ path.text)

/-- What is said about the use of the program. -/
def helpText : String :=
  lines [
    "Generate Flogo applications from AsyncAPI documents",
    "",
    "Usage: asyncapi-flogo [OPTIONS]",
    "",
    "Options:",
    "  -i, --input <INPUT>           Path to the AsyncAPI document (YAML or JSON) "
      ++ "[default: asyncapi.yml]",
    "  -t, --type <CONVERSION_TYPE>  Kind of application to generate [default: flogoapiapp] "
      ++ "[possible values: flogoapiapp, flogodescriptor]",
    "  -o, --output <OUTPUT>         Directory to write the generated files to [default: .]",
    "  -r, --role <ROLE>             Side of the channels the application plays [default: server] "
      ++ "[possible values: server, client]",
    "      --modules <MODULES>       Module catalog overriding the embedded module versions",
    "  -v, --verbose                 Enable verbose output",
    "  -h, --help                    Print help (see more with '--help')",
    "  -V, --version                 Print version",
    "",
    "EXAMPLES:",
    "  # Generate a Go API application from asyncapi.yml",
    "  asyncapi-flogo",
    "",
    "  # Generate a JSON descriptor for the client side of the channels",
    "  asyncapi-flogo -i streetlights.yml -t flogodescriptor -r client -o ./app"]

/-- Runs the program with arguments. -/
def run (args : List String) : m Report := do
  match parse args with
  | .wrong => return ⟨2, "", none⟩
  | .help => return ⟨0, helpText, none⟩
  | .version => return ⟨0, programName ++ " " ++ programVersion ++ "\n", none⟩
  | .request r =>
    let (result, output) ← (perform r).run.run ""
    match result with
    | .ok () => return ⟨0, output, none⟩
    | .error failure => return ⟨1, output, some failure⟩

end EventGateway.CommandLine
