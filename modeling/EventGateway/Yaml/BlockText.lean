import EventGateway.Yaml.Cursor

/-!
# Block scalars

A block scalar is a header line followed by indented lines.  Its indentation is that of its first
line that is not blank, unless the header gives it.  A literal scalar keeps its line ends; a folded
one turns the line end between two lines that do not start with a blank into a blank.
-/

namespace EventGateway.Yaml

/-- What becomes of the line ends behind the last line. -/
inductive Chomping where
  /-- None is kept. -/
  | strip
  /-- The first one is kept. -/
  | clip
  /-- All are kept. -/
  | keep
deriving DecidableEq, Repr

/-- The header of a block scalar. -/
structure BlockHeader where
  chomping : Chomping := .clip
  /-- The columns of indentation, counted from the surrounding block. -/
  increment : Option Nat := none

namespace BlockHeader

/-- What the sign in the head of a block says about its end. -/
def chomping? : Char → Option Chomping
  | '+' => some .keep
  | '-' => some .strip
  | _ => none

/-- Reads the indicator of the chomping, if one follows. -/
def readChomping (h : BlockHeader) (c : Cursor) : BlockHeader × Cursor :=
  match c.rest.head?.bind chomping? with
  | some chomping => ({ h with chomping }, c.advance 1)
  | none => (h, c)

/-- Reads the indicator of the indentation, if one follows; it is not zero. -/
def readIncrement? (h : BlockHeader) (c : Cursor) : Option (BlockHeader × Cursor) :=
  match c.rest with
  | x :: _ =>
    if !x.isDigit then some (h, c)
    else if x = '0' then none
    else some ({ h with increment := some (x.toNat - 48) }, c.advance 1)
  | [] => some (h, c)

/-- Reads the two indicators in either order, and the rest of the header line. -/
def read? (c : Cursor) : Option (BlockHeader × Cursor) := do
  let (h, c₁) := readChomping {} c
  let (h, c₂) ← h.readIncrement? c₁
  let (h, c₃) := if h.chomping = .clip ∧ h.increment.isSome then h.readChomping c₂ else (h, c₂)
  return (h, ← c₃.finishLine?)

end BlockHeader

/-- What has been read of a block scalar. -/
structure BlockText where
  /-- The characters of the lines so far, last one first, without the last line end. -/
  read : List Char := []
  /-- The end of the last line. -/
  lineEnd : List Char := []
  /-- The ends of the empty lines behind it, last one first. -/
  emptyLines : List Char := []
  /-- Whether the last line starts with a blank. -/
  spaced : Bool := false
  /-- The columns of indentation, once they are known. -/
  indent : Option Nat
  /-- The largest column reached by blanks while the indentation is not known. -/
  widest : Nat := 0
  /-- Whether the reader stands inside a line, and not in its indentation. -/
  inLine : Bool := false

namespace BlockText

/-- Whether blanks still belong to the indentation. -/
def inMargin (t : BlockText) (column : Nat) : Bool :=
  match t.indent with
  | none => true
  | some indent => column < indent

/-- The indentation; if it is not known, it is that of the line that starts here. -/
def settledIndent (t : BlockText) (least column : Nat) : Nat :=
  match t.indent with
  | some indent => indent
  | none => max (max t.widest column) least

/-- The text in front of a new line, last character first. -/
def joined (t : BlockText) (folds : Bool) (spaced : Bool) : List Char :=
  if folds && t.lineEnd == ['\n'] && !t.spaced && !spaced then
    (if t.emptyLines.isEmpty then [' '] else t.emptyLines) ++ t.read
  else t.emptyLines ++ (t.lineEnd ++ t.read)

/-- Reads on.  `least` is the least indentation. -/
def scan? (folds : Bool) (least : Nat) (t : BlockText) (p : Place) :
    (rest : List Char) → Option (BlockText × Cursor)
  | [] => some (t, ⟨[], p⟩)
  | x :: rest =>
    if t.inLine then
      if isBreak x then
        scan? folds least { t with lineEnd := [x], inLine := false } p.nextLine rest
      else scan? folds least { t with read := x :: t.read } (p.next x) rest
    else if x = ' ' ∧ t.inMargin p.column then scan? folds least t (p.next x) rest
    else if x = '\t' ∧ t.inMargin p.column then none
    else if isBreak x then
      scan? folds least { t with emptyLines := x :: t.emptyLines, widest := max t.widest p.column }
        p.nextLine rest
    else
      let indent := t.settledIndent least p.column
      if p.column = indent then
        let spaced := isSpace x
        let t : BlockText := {
          read := x :: t.joined folds spaced
          lineEnd := []
          emptyLines := []
          spaced
          indent := some indent
          widest := t.widest
          inLine := true }
        scan? folds least t (p.next x) rest
      else some (t, ⟨x :: rest, p⟩)

/-- The text of the scalar, last character first. -/
def chomped (t : BlockText) : Chomping → List Char
  | .strip => t.read
  | .clip => t.lineEnd ++ t.read
  | .keep => t.emptyLines ++ (t.lineEnd ++ t.read)

/-- Reads a block scalar behind its first indicator.  `indent` is the column of the surrounding
block, below zero if there is none. -/
def read? (folds : Bool) (indent : Int) (c : Cursor) : Option (String × Cursor) := do
  let (header, c) ← BlockHeader.read? c
  let t : BlockText := { indent := header.increment.map fun increment => indent.toNat + increment }
  let least : Nat := max (indent + 1).toNat 1
  let (t, c) ← scan? folds least t c.place c.rest
  return (String.ofList (t.chomped header.chomping).reverse, c)

end BlockText

end EventGateway.Yaml
