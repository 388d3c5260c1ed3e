import EventGateway.Json.Value

/-!
# Faults

Everything that can keep a document from being compiled, and its text.
-/

namespace EventGateway

/-- The type that a value should have. -/
inductive Kind where
  | string
  | boolean
  | number
  | stringMap
deriving DecidableEq, Repr

/-- The name of a kind in messages. -/
def Kind.describe : Kind → String
  | string => "a string"
  | boolean => "a boolean"
  | number => "a number"
  | stringMap => "a map of strings"

/-- Why a document was not compiled. -/
inductive Fault where
  /-- The file of the document cannot be read. -/
  | documentUnreadable
  | documentNotJson
  | documentNotYaml
  | asyncapiMissing
  /-- An extension that is read has a value of another type. -/
  | extension (key owner : String) (expected : Kind) (found : Value)
  /-- The port of a URL is neither a template nor an integer. -/
  | port (text url : String)
  /-- The file of the module catalog cannot be read. -/
  | catalogUnreadable
  | catalogNotYaml
  | catalogVersion (version : Nat)

namespace Fault

/-- The text of a fault.  What a reader of files or of markup has to say about its trouble is not
part of it. -/
def message : Fault → String
  | documentUnreadable => "Parse error: Failed to read AsyncAPI file"
  | documentNotJson => "Parse error: Failed to parse AsyncAPI JSON"
  | documentNotYaml => "Parse error: Failed to parse AsyncAPI YAML"
  | asyncapiMissing => "Parse error: Missing required field 'asyncapi'"
  | extension key owner expected found =>
    "Invalid extension " ++ key ++ " on " ++ owner ++ ": expected " ++ expected.describe ++
      ", found " ++ found.compact
  | port text url => "Invalid port '" ++ text ++ "' in server url " ++ url
  | catalogUnreadable => "IO error"
  | catalogNotYaml => "YAML error"
  | catalogVersion version =>
    "Configuration error: Unsupported module catalog version " ++ toString version ++
      " (expected 1)"

end Fault

end EventGateway
