import EventGateway.Yaml.Lexer

/-!
# From tokens to nodes

A document is a tree of scalars, sequences and mappings, in which an alias stands for a node that is
written elsewhere. `Tree.ofTokens?` builds the tree of a text that holds at most one document.

An anchor gives its node a number, which is how many names of anchors are known when it is written;
an alias stands for the last node that is given its number.
-/

namespace EventGateway.Yaml

/-- A part of a document. -/
inductive Node where
  | scalar (text : String) (style : Style) (tag : Option Tag)
  | sequence (items : List Node) (tag : Option Tag)
  | mapping (entries : List (Node × Node)) (tag : Option Tag)
  | alias (number : Nat)
deriving Inhabited

/-- What stands where a node is missing. -/
def Node.missing : Node :=
  .scalar "" .plain none

/-- The tree of a text. -/
structure Tree where
  /-- The document, if the text holds one. -/
  root : Option Node
  /-- The nodes that aliases stand for, by number. -/
  targets : List (Nat × Node)
  /-- How many starts and ends of nodes the text has. -/
  size : Nat

/-- The state of the construction of a tree. -/
structure Building where
  tokens : List Token
  /-- The meanings of the handles of tags. -/
  handles : List (String × Tag)
  /-- The numbers of the names of anchors, one for each name. -/
  names : List (String × Nat) := []
  /-- The number of every anchored node, last one first. -/
  anchored : List Nat := []
  /-- The anchored nodes that are complete, by their position from the start. -/
  complete : List (Nat × Node) := []
  size : Nat := 0

/-- Steps in the construction of a tree; one that fails finds the text malformed. -/
abbrev Builder := StateT Building Option

namespace Builder

/-- The next token, which stays. -/
def peek : Builder (Option Token) := do
  return (← get).tokens.head?

/-- Drops the next token. -/
def skip : Builder Unit :=
  modify fun b => { b with tokens := b.tokens.drop 1 }

/-- Counts starts and ends of nodes. -/
def count (n : Nat) : Builder Unit :=
  modify fun b => { b with size := b.size + n }

/-- A node that is missing. -/
def missing : Builder Node := do
  count 1
  return .missing

/-- Takes the token of an anchor. -/
def anchor? : Builder (Option String) := do
  match ← peek with
  | some (.anchor name) => skip; return some name
  | _ => return none

/-- Takes the token of a tag, and gives its handle its meaning. -/
def tag? : Builder (Option Tag) := do
  match ← peek with
  | some (.tag handle suffix) =>
    skip
    if handle.isEmpty then return some suffix
    match (← get).handles.lookup handle with
    | some meaning => return some (meaning.append suffix)
    | none => failure
  | _ => return none

/-- Takes anchor and tag of a node, in either order. -/
def properties : Builder (Option String × Option Tag) := do
  match ← anchor? with
  | some name => return (some name, ← tag?)
  | none =>
    let tag ← tag?
    if tag.isSome then return (← anchor?, tag) else return (none, none)

/-- Gives the node of an anchor its number, and tells its position among the anchored nodes. -/
def declare (name : Option String) : Builder (Option Nat) := do
  match name with
  | none => return none
  | some name =>
    let b ← get
    let number := b.names.length
    set { b with
      names := (name, number) :: b.names.filter (·.1 != name)
      anchored := number :: b.anchored }
    return some b.anchored.length

/-- Keeps the node of an anchor. -/
def keep (position : Option Nat) (node : Node) : Builder Node := do
  if let some position := position then
    modify fun b => { b with complete := (position, node) :: b.complete }
  return node

mutual

/-- A node.  Outside flow collections, block collections may start here; where a sequence needs no
indentation, it may start with its first dash. -/
def node : (fuel : Nat) → (block indentless : Bool) → Builder Node
  | 0, _, _ => failure
  | fuel + 1, block, indentless => do
    if let some (.alias name) ← peek then
      skip
      count 1
      match (← get).names.lookup name with
      | some number => return .alias number
      | none => failure
    let (anchor, tag) ← properties
    let token ← peek
    let position ← declare anchor
    match token with
    | some (.scalar text style) =>
      skip
      count 1
      keep position (.scalar text style tag)
    | some .flowSequenceStart =>
      skip
      count 2
      keep position (.sequence (← flowItems fuel true) tag)
    | some .flowMappingStart =>
      skip
      count 2
      keep position (.mapping (← flowEntries fuel true) tag)
    | some .blockEntry =>
      if indentless then
        count 2
        keep position (.sequence (← indentlessItems fuel) tag)
      else scalarless position anchor tag
    | some .blockSequenceStart =>
      if block then
        skip
        count 2
        keep position (.sequence (← blockItems fuel) tag)
      else scalarless position anchor tag
    | some .blockMappingStart =>
      if block then
        skip
        count 2
        keep position (.mapping (← blockEntries fuel) tag)
      else scalarless position anchor tag
    | _ => scalarless position anchor tag

/-- A node of which only anchor or tag are written. -/
def scalarless (position : Option Nat) (anchor : Option String) (tag : Option Tag) :
    Builder Node := do
  if anchor.isNone && tag.isNone then failure
  count 1
  keep position (.scalar "" .plain tag)

/-- The items of a block sequence. -/
def blockItems : (fuel : Nat) → Builder (List Node)
  | 0 => failure
  | fuel + 1 => do
    match ← peek with
    | some .blockEntry =>
      skip
      let item ←
        match ← peek with
        | some .blockEntry | some .blockEnd => missing
        | _ => node fuel true false
      return item :: (← blockItems fuel)
    | some .blockEnd => skip; return []
    | _ => failure

/-- The items of a block sequence that is indented no further than the mapping around it. -/
def indentlessItems : (fuel : Nat) → Builder (List Node)
  | 0 => failure
  | fuel + 1 => do
    match ← peek with
    | some .blockEntry =>
      skip
      let item ←
        match ← peek with
        | some .blockEntry | some .key | some .value | some .blockEnd => missing
        | _ => node fuel true false
      return item :: (← indentlessItems fuel)
    | _ => return []

/-- A key or a value of a block mapping, behind its indicator. -/
def blockPart : (fuel : Nat) → Builder Node
  | 0 => failure
  | fuel + 1 => do
    match ← peek with
    | some .key | some .value | some .blockEnd => missing
    | _ => node fuel true true

/-- The entries of a block mapping. -/
def blockEntries : (fuel : Nat) → Builder (List (Node × Node))
  | 0 => failure
  | fuel + 1 => do
    match ← peek with
    | some .key =>
      skip
      let key ← blockPart fuel
      let value ←
        match ← peek with
        | some .value => skip; blockPart fuel
        | _ => missing
      return (key, value) :: (← blockEntries fuel)
    | some .blockEnd => skip; return []
    | _ => failure

/-- The value of a flow collection's entry, behind its key. -/
def flowValue : (fuel : Nat) → Builder Node
  | 0 => failure
  | fuel + 1 => do
    match ← peek with
    | some .value =>
      skip
      match ← peek with
      | some .flowEntry | some .flowSequenceEnd => missing
      | _ => node fuel false false
    | _ => missing

/-- The items of a flow sequence, an item that is a single entry of a mapping included.  A key that
is missing takes the token behind it along. -/
def flowItems : (fuel : Nat) → (first : Bool) → Builder (List Node)
  | 0, _ => failure
  | fuel + 1, first => do
    if (← peek) = some .flowSequenceEnd then skip; return []
    if !first then
      if (← peek) = some .flowEntry then skip else failure
    match ← peek with
    | some .flowSequenceEnd => skip; return []
    | some .key =>
      skip
      count 2
      let key ←
        match ← peek with
        | some .value | some .flowEntry | some .flowSequenceEnd => skip; missing
        | _ => node fuel false false
      let value ← flowValue fuel
      return .mapping [(key, value)] none :: (← flowItems fuel false)
    | _ =>
      let item ← node fuel false false
      return item :: (← flowItems fuel false)

/-- A key or a value of a flow mapping, behind its indicator. -/
def flowPart : (fuel : Nat) → Builder Node
  | 0 => failure
  | fuel + 1 => do
    match ← peek with
    | some .value | some .flowEntry | some .flowMappingEnd => missing
    | _ => node fuel false false

/-- The entries of a flow mapping. -/
def flowEntries : (fuel : Nat) → (first : Bool) → Builder (List (Node × Node))
  | 0, _ => failure
  | fuel + 1, first => do
    if (← peek) = some .flowMappingEnd then skip; return []
    if !first then
      if (← peek) = some .flowEntry then skip else failure
    match ← peek with
    | some .flowMappingEnd => skip; return []
    | some .key =>
      skip
      let key ← flowPart fuel
      let value ←
        match ← peek with
        | some .value => skip; flowPart fuel
        | _ => missing
      return (key, value) :: (← flowEntries fuel false)
    | _ =>
      let key ← node fuel false false
      let value ← missing
      return (key, value) :: (← flowEntries fuel false)

end

/-- The handles that every document knows. -/
def standardHandles : List (String × Tag) :=
  [("!", .ofText "!"), ("!!", .ofText "tag:yaml.org,2002:")]

/-- Reads the directives in front of a document. -/
def directives (versioned : Bool) (handles : List (String × Tag)) : List Token → Builder Unit
  | .versionDirective major minor :: rest => do
    if versioned || major != 1 || !(minor == 1 || minor == 2) then failure
    directives true handles rest
  | .tagDirective handle meaning :: rest => do
    if (handles.lookup handle).isSome then failure
    directives versioned ((handle, meaning) :: handles) rest
  | rest => modify fun b => { b with tokens := rest, handles := handles ++ standardHandles }

/-- Whether a document starts with this token explicitly. -/
def opensDocument : Option Token → Bool
  | some (.versionDirective _ _) | some (.tagDirective _ _) | some .documentStart => true
  | _ => false

/-- The node of the first document, which has to start explicitly if directives stand in front of
it. -/
def document (fuel : Nat) : Builder Node := do
  if opensDocument (← peek) then
    directives false [] (← get).tokens
    if (← peek) = some .documentStart then skip else failure
    let next ← peek
    if opensDocument next || next == some .documentEnd || next.isNone then missing
    else node fuel true false
  else node fuel true false

/-- The tree of a text, of which at most the end of the document may be left. -/
def tree (fuel : Nat) : Builder Tree := do
  if (← peek).isNone then return ⟨none, [], 1⟩
  let root ← document fuel
  let b ← get
  if b.tokens.any (· != .documentEnd) then failure
  let numbered := b.anchored.reverse.zipIdx.map fun (number, position) =>
    (number, b.complete.lookup position)
  let targets := numbered.reverse.filterMap fun (number, node) => node.map (number, ·)
  return ⟨some root, targets, b.size⟩

end Builder

/-- Builds the tree of the tokens of a text.  Every two steps down take a token. -/
def Tree.ofTokens? (tokens : List Token) : Option Tree :=
  ((Builder.tree (2 * tokens.length + 4)).run
    ⟨tokens, Builder.standardHandles, [], [], [], 0⟩).map Prod.fst

/-- Reads a text as a tree. -/
def Tree.ofText? (text : String) : Option Tree :=
  (Token.scan? text).bind Tree.ofTokens?

end EventGateway.Yaml
