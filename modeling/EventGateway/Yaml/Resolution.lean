import EventGateway.Draft
import EventGateway.Text.Digits
import EventGateway.Yaml.Node

/-!
# The values of scalars

A scalar without quotes and tag is null, a boolean, a number or else a text.  Integers are decimal,
or hexadecimal, octal or binary behind `0x`, `0o` or `0b`; decimal digits that start with a
superfluous zero are a text.
-/

namespace EventGateway.Yaml

open Text (natOfDigits? ofDigits takeDigits)

/-- The spellings of null, an empty scalar apart. -/
def isNullWord (s : String) : Bool :=
  ["null", "Null", "NULL", "~"].contains s

/-- The boolean that a word stands for. -/
def boolOfWord? (s : String) : Option Bool :=
  if ["true", "True", "TRUE"].contains s then some true
  else if ["false", "False", "FALSE"].contains s then some false
  else none

/-- A scalar without the sign at its start. -/
def withoutSign : List Char → List Char
  | '+' :: rest => rest
  | '-' :: rest => rest
  | s => s

/-- Whether a scalar consists of decimal digits that start with a superfluous zero. -/
def isPadded (s : List Char) : Bool :=
  match withoutSign s with
  | '0' :: x :: rest => (x :: rest).all Char.isDigit
  | _ => false

/-- The natural number that a text without sign stands for. -/
def natOf? : List Char → Option Nat
  | '0' :: 'x' :: rest => natOfDigits? 16 rest
  | '0' :: 'o' :: rest => natOfDigits? 8 rest
  | '0' :: 'b' :: rest => natOfDigits? 2 rest
  | s => if isPadded s then none else natOfDigits? 10 s

/-- The integer that a scalar stands for, up to the size of 128 bits. -/
def intOf? : List Char → Option Int
  | '-' :: rest => ((natOf? rest).filter (· ≤ Nat.pow 2 127)).map fun n => -(n : Int)
  | '+' :: rest => ((natOf? rest).filter (· < Nat.pow 2 128)).map fun n => (n : Int)
  | s => ((natOf? s).filter (· < Nat.pow 2 128)).map fun n => (n : Int)

/-- Integers that fit in 64 bits, with or without a sign. -/
def fits64 (n : Int) : Bool :=
  Number.minInteger ≤ n && n < (Nat.pow 2 64 : Nat)

/-- The natural number that a scalar stands for, if it fits in 64 bits. -/
def unsignedOf? (s : String) : Option Nat :=
  match intOf? s.toList with
  | some n =>
      if 0 ≤ n ∧ n < (Nat.pow 2 64 : Nat) ∧ s.toList.head? ≠ some '-' then some n.toNat else none
  | none => none

/-- The exponent of a decimal, or none at its end. -/
def exponentOf? : List Char → Option Int
  | [] => some 0
  | c :: rest =>
    if c = 'e' ∨ c = 'E' then
      match rest with
      | '-' :: rest => (natOfDigits? 10 rest).map fun n => -(n : Int)
      | '+' :: rest => (natOfDigits? 10 rest).map fun n => (n : Int)
      | rest => (natOfDigits? 10 rest).map fun n => (n : Int)
    else none

/-- The floating-point number nearest to `n · 10 ^ e`, if it is finite. -/
def nearestFloat? (n : Nat) (e : Int) : Option Float :=
  let size : Int := e + (Nat.toDigits 10 n).length
  if n = 0 ∨ size < -400 then some 0
  else if 400 < size then none
  else
    let x :=
      if e < 0 then Float.ofScientific n true (-e).toNat else Float.ofScientific n false e.toNat
    if x.isFinite then some x else none

/-- A decimal without sign: digits with a point among them or not, and an exponent. -/
def decimalOf? (s : List Char) : Option Float :=
  let (whole, rest) := takeDigits s
  let (fraction, rest) :=
    match rest with
    | '.' :: rest => takeDigits rest
    | rest => ([], rest)
  if whole.isEmpty && fraction.isEmpty then none
  else (exponentOf? rest).bind fun e =>
    nearestFloat? (ofDigits 10 (whole ++ fraction)) (e - fraction.length)

/-- The floating-point number that a scalar stands for; a decimal out of range stands for none. -/
def floatOf? (s : String) : Option Float :=
  if [".inf", ".Inf", ".INF", "+.inf", "+.Inf", "+.INF"].contains s then some (1 / 0)
  else if ["-.inf", "-.Inf", "-.INF"].contains s then some (-1 / 0)
  else if [".nan", ".NaN", ".NAN"].contains s then some (0 / 0)
  else
    match s.toList with
    | '-' :: rest => (decimalOf? rest).map fun x => -x
    | '+' :: rest => decimalOf? rest
    | rest => decimalOf? rest

/-- The value of a scalar that stands for an integer; one that does not fit is unreadable. -/
def draftOfInt (s : String) (n : Int) : Draft :=
  if !fits64 n then .unreadable
  else if n = 0 ∧ s.toList.head? = some '-' then .negativeZero
  else .number (.integer n)

/-- The value of a scalar without quotes and tag. -/
def resolvePlain (s : String) : Draft :=
  if s.isEmpty || isNullWord s then .null
  else
    match boolOfWord? s with
    | some b => .bool b
    | none =>
      match intOf? s.toList with
      | some n => draftOfInt s n
      | none =>
        if isPadded s.toList then .text s
        else
          match floatOf? s with
          | some x => .number (.ofFloat x)
          | none => .text s

/-- The tags that ask for a value of some type. -/
inductive CoreTag where
  | null
  | bool
  | int
  | float
deriving DecidableEq, Repr

namespace CoreTag

/-- The tag itself. -/
def tag : CoreTag → Tag
  | null => .ofText "tag:yaml.org,2002:null"
  | bool => .ofText "tag:yaml.org,2002:bool"
  | int => .ofText "tag:yaml.org,2002:int"
  | float => .ofText "tag:yaml.org,2002:float"

/-- The type that a tag asks for. -/
def ofTag? (t : Tag) : Option CoreTag :=
  [null, bool, int, float].find? (·.tag == t)

/-- The value of a scalar with a tag that asks for a type. -/
def resolve (s : String) : CoreTag → Draft
  | null => if isNullWord s then .null else .unreadable
  | bool => ((boolOfWord? s).map .bool).getD .unreadable
  | int => ((intOf? s.toList).map (draftOfInt s)).getD .unreadable
  | float => ((floatOf? s).map fun x => .number (.ofFloat x)).getD .unreadable

end CoreTag

/-- Whether a tag names a type of its own, which no value has.  One that is not text names none. -/
def isCustomTag (tag : Option Tag) : Bool :=
  tag.any fun t => t.isLocal && t.isText

/-- The value of a scalar.  A tag that names no type makes it a text, a local one only if it has
quotes. -/
def resolve (s : String) (style : Style) (tag : Option Tag) : Draft :=
  if isCustomTag tag then .unreadable
  else
    match tag.bind CoreTag.ofTag? with
    | some core => core.resolve s
    | none => if style = .plain ∧ tag.all Tag.isLocal then resolvePlain s else .text s

end EventGateway.Yaml
