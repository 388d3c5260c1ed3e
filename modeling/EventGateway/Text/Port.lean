import EventGateway.Text.Split
import EventGateway.Text.Template

/-!
# The port of a URL

A URL is `scheme://authority/path`, where scheme and path may be missing.  The port is what follows
the first colon of the authority; the colons of an address in brackets, as in `[::1]:80`, belong to
the host.
-/

namespace EventGateway.Text

/-- The URL without its scheme. -/
def afterScheme (url : List Char) : List Char :=
  match splitOnce [':', '/', '/'] url with
  | some (_, rest) => rest
  | none => url

/-- The part of a URL without scheme that names host and port: all before the first slash. -/
def authority (rest : List Char) : List Char :=
  rest.takeWhile (· != '/')

/-- What follows the first colon. -/
def afterColon? (s : List Char) : Option (List Char) :=
  (splitOnce [':'] s).map Prod.snd

/-- The text of the port in an authority.  A bracket that is never closed leaves no port. -/
def portText? : (authority : List Char) → Option (List Char)
  | '[' :: address => (splitOnce [']'] address).bind fun (_, rest) => afterColon? rest
  | host => afterColon? host

/-- The port of a URL, read as a template; empty if the URL has none. -/
def Template.ofPort (url : String) : Template :=
  match portText? (authority (afterScheme url.toList)) with
  | some text => .parse (String.ofList text)
  | none => .empty

end EventGateway.Text
