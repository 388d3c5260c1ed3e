/-!
# Topics

The topic of a channel starts with a slash.  A channel whose name does not is put below the base
channel of the server.
-/

namespace EventGateway

/-- A text without the slashes at its two ends. -/
def trimSlashes (s : List Char) : List Char :=
  ((s.dropWhile (· == '/')).reverse.dropWhile (· == '/')).reverse

/-- The topic of a channel below a base channel. -/
def topicChars (channel : List Char) (base : Option (List Char)) : List Char :=
  match channel with
  | '/' :: _ => channel
  | _ =>
    match base.map trimSlashes with
    | none | some [] => '/' :: channel
    | some base => '/' :: base ++ '/' :: channel

/-- `topicChars` on strings. -/
def resolveTopic (channel : String) (base : Option String) : String :=
  String.ofList (topicChars channel.toList (base.map String.toList))

end EventGateway
