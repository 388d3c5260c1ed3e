import EventGateway.Decimal.Shortest

/-!
# Numbers

A number is an integer or a binary floating-point number of 64 bits, and remembers which: `1` and
`1.0` are different numbers with different texts.
-/

namespace EventGateway

/-- An integer, or the 64 bits of a floating-point number. -/
inductive Number where
  | integer (value : Int)
  | float (bits : UInt64)
deriving DecidableEq, Repr, Inhabited

namespace Number

/-- Infinities and values that are no number have no place in a JSON value. -/
def isFinite : Number → Bool
  | integer _ => true
  | float bits => (Decimal.Binary.ofBits? bits).isSome

/-- A floating-point number is known by its bits. -/
def ofFloat (x : Float) : Number :=
  float x.toBits

/-- Zero with either sign. -/
def isFloatZero (bits : UInt64) : Bool :=
  bits.toNat % Nat.pow 2 63 == 0

/-- The same kind and the same value: the two zeros of floating-point numbers are the same value, an
integer and a floating-point number never are. -/
def same : Number → Number → Bool
  | integer a, integer b => a == b
  | float a, float b => a == b || (isFloatZero a && isFloatZero b)
  | _, _ => false

/-- The smallest and the largest integer of 64 bits. -/
def minInteger : Int := -(Nat.pow 2 63 : Nat)

/-- The largest number with a sign in 64 bits. -/
def maxInteger : Int := (Nat.pow 2 63 : Nat) - 1

/-- The nearest integer of 64 bits. -/
def clamp (n : Int) : Int :=
  max minInteger (min n maxInteger)

/-- The integer part of a floating-point number; zero where there is none. -/
def integerPart (bits : UInt64) : Int :=
  match Decimal.Binary.ofBits? bits with
  | none => 0
  | some x =>
    let (num, den) := Decimal.ratio x.mantissa 2 x.exponent
    if Decimal.isNegative bits then -((num / den : Nat) : Int) else (num / den : Nat)

/-- The number itself, if it is an integer of 64 bits. -/
def integer? : Number → Option Int
  | integer n => if minInteger ≤ n ∧ n ≤ maxInteger then some n else none
  | float _ => none

/-- The magnitude of the floating-point number that is nearest to a natural number: 53 binary digits
are kept, and of two that are equally near the one that ends in zero. -/
def nearest (n : Nat) : Nat :=
  let unit := Nat.pow 2 (n.log2 - 52)
  let below := n / unit
  let rest := n % unit
  if 2 * rest < unit ∨ (2 * rest = unit ∧ below % 2 = 0) then below * unit else (below + 1) * unit

/-- The integer part of a number as a floating-point number. -/
def wholePart : Number → Int
  | integer n => n.sign * nearest n.natAbs
  | float bits => integerPart bits

/-- A number as an integer of 64 bits: itself if it is one, or else what is left of it as a
floating-point number without fraction and within bounds. -/
def truncate (n : Number) : Int :=
  n.integer?.getD (clamp n.wholePart)

/-- `n` zeros. -/
def zeros (n : Nat) : List Char :=
  List.replicate n '0'

/-- An exponent with its sign. -/
def exponentText (e : Int) : List Char :=
  if e < 0 then '-' :: Nat.toDigits 10 (-e).toNat else '+' :: Nat.toDigits 10 e.toNat

/-- A decimal above zero.  If the first digit stands for a power of ten from -5 to 15 the notation
is positional, with at least one digit after the point; otherwise it has an exponent with a sign. -/
def positive (s : Decimal.Scaled) : List Char :=
  let digits := Nat.toDigits 10 s.digits
  let first : Int := s.exponent + digits.length - 1
  if -5 ≤ first ∧ first ≤ 15 then
    if 0 ≤ s.exponent then digits ++ zeros s.exponent.toNat ++ ['.', '0']
    else if 0 ≤ first then
      digits.take (first.toNat + 1) ++ '.' :: digits.drop (first.toNat + 1)
    else '0' :: '.' :: zeros ((-first).toNat - 1) ++ digits
  else
    match digits with
    | [] => []
    | [d] => d :: 'e' :: exponentText first
    | d :: rest => d :: '.' :: rest ++ 'e' :: exponentText first

/-- The text of a floating-point number: the fewest digits that read back, never without a point or
an exponent. -/
def floatText (bits : UInt64) : List Char :=
  match Decimal.Binary.ofBits? bits with
  | none => ['n', 'u', 'l', 'l']
  | some x =>
    let magnitude := if x.mantissa = 0 then ['0', '.', '0'] else positive (Decimal.shortest x)
    if Decimal.isNegative bits then '-' :: magnitude else magnitude

/-- The text of an integer. -/
def integerText (n : Int) : List Char :=
  if n < 0 then '-' :: Nat.toDigits 10 n.natAbs else Nat.toDigits 10 n.natAbs

/-- The text of a number. -/
def chars : Number → List Char
  | integer n => integerText n
  | float bits => floatText bits

/-- The text of a number. -/
def text (n : Number) : String :=
  String.ofList n.chars

end Number

end EventGateway
