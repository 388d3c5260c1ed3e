import EventGateway.Compile.Options
import EventGateway.Project.Output

/-!
# Arguments

The command line consists of options only.  An option is written with one letter behind a dash or
with its name behind two; its value follows as an argument of its own or in the same one, and no
option may be given twice.  Arguments are read one after the other, and the first that is wrong or
asks for help or the version ends the reading.
-/

namespace EventGateway.CommandLine

/-- The options that can be given. -/
inductive OptionName where
  | input
  | type
  | output
  | role
  | modules
  | verbose
  | help
  | version
deriving DecidableEq, Repr

namespace OptionName

/-- All options, in the order in which they are listed. -/
def all : List OptionName :=
  [input, type, output, role, modules, verbose, help, version]

/-- The name behind two dashes. -/
def long : OptionName → String
  | input => "input"
  | type => "type"
  | output => "output"
  | role => "role"
  | modules => "modules"
  | verbose => "verbose"
  | help => "help"
  | version => "version"

/-- The letter behind one dash. -/
def short? : OptionName → Option Char
  | input => some 'i'
  | type => some 't'
  | output => some 'o'
  | role => some 'r'
  | modules => none
  | verbose => some 'v'
  | help => some 'h'
  | version => some 'V'

/-- Whether an option is followed by a value. -/
def takesValue : OptionName → Bool
  | input | type | output | role | modules => true
  | verbose | help | version => false

/-- The option with a long name. -/
def ofLong? (name : List Char) : Option OptionName :=
  all.find? (·.long.toList == name)

/-- The option with a letter. -/
def ofShort? (letter : Char) : Option OptionName :=
  all.find? (·.short? == some letter)

end OptionName

/-- What a run is asked to do. -/
structure Request where
  /-- The path of the document. -/
  input : String := "asyncapi.yml"
  kind : OutputKind := .apiApp
  /-- The path of the directory that is written to. -/
  output : String := "."
  role : Role := .server
  /-- The path of a catalog to use. -/
  modules : Option String := none
  verbose : Bool := false
deriving DecidableEq, Repr

/-- The result of reading arguments. -/
inductive Parsed where
  | request (r : Request)
  | help
  | version
  /-- The arguments are wrong. -/
  | wrong
deriving DecidableEq, Repr

/-- The role with a name. -/
def roleOfName? : String → Option Role
  | "server" => some .server
  | "client" => some .client
  | _ => none

/-- A text that is not empty. -/
def nonEmpty? (text : String) : Option String :=
  if text.isEmpty then none else some text

/-- A request with the value of an option. -/
def setValue? (r : Request) (value : String) : OptionName → Option Request
  | .input => (nonEmpty? value).map fun input => { r with input }
  | .type => (OutputKind.ofIdentifier? value).map fun kind => { r with kind }
  | .output => (nonEmpty? value).map fun output => { r with output }
  | .role => (roleOfName? value).map fun role => { r with role }
  | .modules => (nonEmpty? value).map fun path => { r with modules := some path }
  | .verbose | .help | .version => none

/-- The state of reading: the request so far, the options that have been given, and the option whose
value comes next. -/
structure Reading where
  request : Request := {}
  given : List OptionName := []
  pending : Option OptionName := none

/-- A step of reading goes on or ends. -/
abbrev Step := Except Parsed

namespace Reading

/-- Takes an option with its value. -/
def take (r : Reading) (o : OptionName) (value : String) : Step Reading :=
  if r.given.contains o then throw .wrong
  else
    match setValue? r.request value o with
    | some request => return ⟨request, o :: r.given, none⟩
    | none => throw .wrong

/-- Takes an option without a value. -/
def takeFlag (r : Reading) : OptionName → Step Reading
  | .help => throw .help
  | .version => throw .version
  | .verbose =>
    if r.given.contains .verbose then throw .wrong
    else return ⟨{ r.request with verbose := true }, .verbose :: r.given, none⟩
  | _ => throw .wrong

/-- Reads an option behind two dashes. -/
def long (r : Reading) (name : List Char) (value : Option (List Char)) : Step Reading :=
  match OptionName.ofLong? name, value with
  | none, _ => throw .wrong
  | some o, some value => if o.takesValue then r.take o (String.ofList value) else throw .wrong
  | some o, none => if o.takesValue then return { r with pending := some o } else r.takeFlag o

/-- Reads the letters behind one dash.  What follows the letter of an option with a value is the
value, without an equals sign at its start. -/
def short (r : Reading) : List Char → Step Reading
  | [] => return r
  | c :: rest =>
    match OptionName.ofShort? c with
    | none => throw .wrong
    | some o =>
      if o.takesValue then
        match rest with
        | [] => return { r with pending := some o }
        | '=' :: value => r.take o (String.ofList value)
        | value => r.take o (String.ofList value)
      else do short (← r.takeFlag o) rest

/-- Cuts the name of an option from its value at the first equals sign. -/
def cutValue (s : List Char) : List Char × Option (List Char) :=
  match s.dropWhile (· != '=') with
  | [] => (s, none)
  | _ :: value => (s.takeWhile (· != '='), some value)

/-- Reads an argument.  One that starts with a dash, except for a dash alone, is never a value. -/
def argument (r : Reading) (text : String) : Step Reading :=
  match r.pending, text.toList with
  | none, '-' :: '-' :: name => let (name, value) := cutValue name; r.long name value
  | none, '-' :: c :: rest => r.short (c :: rest)
  | none, _ => throw .wrong
  | some _, '-' :: _ :: _ => throw .wrong
  | some o, _ => ({ r with pending := none }).take o text

/-- Reads arguments.  Behind two dashes alone nothing may follow. -/
def arguments (r : Reading) : List String → Step Reading
  | [] => return r
  | "--" :: rest => if r.pending.isNone && rest.isEmpty then return r else throw .wrong
  | text :: rest => do arguments (← r.argument text) rest

end Reading

/-- Reads the arguments of the program. -/
def parse (args : List String) : Parsed :=
  match ({} : Reading).arguments args with
  | .error p => p
  | .ok r => if r.pending.isSome then .wrong else .request r.request

end EventGateway.CommandLine
