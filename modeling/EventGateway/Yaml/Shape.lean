import EventGateway.Yaml.Resolution

/-!
# Reading a tree

What a scalar means depends on what is expected of it: where a text is expected, `1.0` is a text.  A
shape says what is expected of a node, and `Tree.read?` gives the draft of a tree of that shape.

A tree may be 128 levels deep.  An alias is read as the node that it stands for, each time anew, so
the number of aliases that are read is limited to a hundred times the size of the tree.
-/

namespace EventGateway.Yaml

/-- What is expected of a node. -/
inductive Shape where
  /-- Nothing; the node is not looked at. -/
  | ignored
  /-- A scalar, which is taken as it is written. -/
  | text
  /-- A natural number of 32 bits. -/
  | natural
  /-- Any value, in which keys are texts. -/
  | free
  /-- Any value, in which keys are values like others. -/
  | loose
  /-- Null for a node that is not there, or a node of some shape. -/
  | optional (shape : Shape)
  /-- A mapping from texts to nodes of one shape. -/
  | entries (shape : Shape)
  /-- A mapping with nodes of different shapes under different names. -/
  | record (fields : List (String × Shape))

namespace Tree

/-- A reader that counts the aliases it has read. -/
abbrev Reader := StateT Nat Option

/-- The node that a node stands for. -/
def target (t : Tree) : Node → Reader Node
  | .alias number => do
    let count ← get
    if 100 * t.size < count + 1 then failure
    set (count + 1)
    t.targets.lookup number
  | node => pure node

/-- A value, unless it is unreadable. -/
def readable : Draft → Reader Draft
  | .unreadable => failure
  | d => pure d

/-- The text of a scalar. -/
def textOf (t : Tree) (node : Node) : Reader String := do
  match ← t.target node with
  | .scalar text _ _ => return text
  | _ => failure

/-- Whether a node stands for one that is not there. -/
def isAbsent : Node → Reader Bool
  | .scalar text .plain (some tag) =>
    if tag = CoreTag.null.tag then
      if isNullWord text then pure true else failure
    else pure false
  | .scalar text .plain none => pure (text.isEmpty || isNullWord text)
  | _ => pure false

/-- The number of a scalar that is plain, or a literal one with the tag of integers. -/
def naturalOf : Node → Option Nat
  | .scalar text style tag =>
    if style = .plain ∨ (style = .literal ∧ tag = some CoreTag.int.tag) then
      (unsignedOf? text).filter (· < Nat.pow 2 32)
    else none
  | _ => none

/-- The entries of a mapping; an empty scalar is an empty mapping. -/
def entriesOf : Node → Option (List (Node × Node))
  | .mapping entries _ => some entries
  | .scalar "" .plain _ => some []
  | _ => none

/-- The shape of a field. -/
def fieldShape (fields : List (String × Shape)) (name : String) : Shape :=
  (fields.lookup name).getD .ignored

/-- Reads a node of some shape.  `depth` levels may still be opened. -/
def readNode (t : Tree) : (depth : Nat) → Shape → Node → Reader Draft
  | _, .ignored, _ => pure .null
  | _, .text, node => Draft.text <$> t.textOf node
  | _, .natural, node => do
    let n ← naturalOf (← t.target node)
    return .number (.integer n)
  | depth, .optional shape, node => do
    let node ← t.target node
    if ← isAbsent node then return .null else readNode t depth shape node
  | 0, .free, node | 0, .loose, node => do
    match ← t.target node with
    | .scalar text style tag => readable (resolve text style tag)
    | _ => failure
  | depth + 1, .free, node => do
    match ← t.target node with
    | .scalar text style tag => readable (resolve text style tag)
    | .sequence items tag =>
      if isCustomTag tag then failure
      return .list (← items.mapM (readNode t depth .free))
    | .mapping entries tag =>
      if isCustomTag tag then failure
      return .map (← entries.mapM fun (key, value) =>
        return (.text (← t.textOf key), ← readNode t depth .free value))
    | .alias _ => failure
  | depth + 1, .loose, node => do
    match ← t.target node with
    | .scalar text style tag => readable (resolve text style tag)
    | .sequence items tag =>
      if isCustomTag tag then failure
      return .list (← items.mapM (readNode t depth .loose))
    | .mapping entries tag =>
      if isCustomTag tag then failure
      return .map (← entries.mapM fun (key, value) =>
        return (← readNode t depth .loose key, ← readNode t depth .loose value))
    | .alias _ => failure
  | 0, .entries _, node | 0, .record _, node => do
    match ← t.target node with
    | .scalar "" .plain _ => return .map []
    | _ => failure
  | depth + 1, .entries shape, node => do
    let entries ← entriesOf (← t.target node)
    return .map (← entries.mapM fun (key, value) =>
      return (.text (← t.textOf key), ← readNode t depth shape value))
  | depth + 1, .record fields, node => do
    let entries ← entriesOf (← t.target node)
    return .map (← entries.mapM fun (key, value) => do
      let name ← t.textOf key
      return (.text name, ← readNode t depth (fieldShape fields name) value))

/-- How many levels a tree may have. -/
def maxDepth : Nat := 128

/-- Reads a tree of some shape.  A text without a document is read as one that is an empty
mapping. -/
def read? (t : Tree) (shape : Shape) : Option Draft :=
  match t.root with
  | none => some (.map [])
  | some root => ((t.readNode maxDepth shape root).run 0).map Prod.fst

end Tree

/-- Reads a text as a document of some shape. -/
def Shape.readText? (shape : Shape) (text : String) : Option Draft :=
  (Tree.ofText? text).bind fun t => t.read? shape

end EventGateway.Yaml
