import EventGateway.Json.Number
import EventGateway.Text.Digits

/-!
# Numerals

A numeral is a number as JSON writes it: sign, whole digits, fraction and exponent.  Whole numerals
that fit in 64 bits are integers.  Any other numeral is a floating-point number: its leading digits,
as many as fit in 64 bits, are rounded to a floating-point number, which is then multiplied or
divided once by a power of ten.  A numeral above the range of floating-point numbers has no value.
-/

namespace EventGateway.Json

open Text (takeDigits)

/-- A number as it is written. -/
structure Numeral where
  negative : Bool
  whole : List Nat
  fraction : Option (List Nat)
  /-- Whether the exponent is below zero, and its digits. -/
  exponent : Option (Bool × List Nat)
deriving DecidableEq, Repr

/-- One digit or more. -/
def someDigits? (s : List Char) : Option (List Nat × List Char) :=
  match takeDigits s with
  | ([], _) => none
  | (digits, rest) => some (digits, rest)

namespace Numeral

/-- The whole part: a zero alone, or digits that do not start with zero. -/
def readWhole? : List Char → Option (List Nat × List Char)
  | '0' :: rest =>
    match rest with
    | c :: _ => if c.isDigit then none else some ([0], rest)
    | [] => some ([0], rest)
  | s => someDigits? s

/-- The fraction, if a point follows. -/
def readFraction? : List Char → Option (Option (List Nat) × List Char)
  | '.' :: rest => (someDigits? rest).map fun (digits, rest) => (some digits, rest)
  | s => some (none, s)

/-- The exponent, if its letter follows. -/
def readExponent? : List Char → Option (Option (Bool × List Nat) × List Char)
  | c :: rest =>
    if c = 'e' ∨ c = 'E' then
      match rest with
      | '+' :: rest => (someDigits? rest).map fun (digits, rest) => (some (false, digits), rest)
      | '-' :: rest => (someDigits? rest).map fun (digits, rest) => (some (true, digits), rest)
      | rest => (someDigits? rest).map fun (digits, rest) => (some (false, digits), rest)
    else some (none, c :: rest)
  | [] => some (none, [])

/-- Reads a numeral without sign. -/
def readMagnitude? (negative : Bool) (s : List Char) : Option (Numeral × List Char) :=
  (readWhole? s).bind fun (whole, s) =>
  (readFraction? s).bind fun (fraction, s) =>
  (readExponent? s).map fun (exponent, s) => (⟨negative, whole, fraction, exponent⟩, s)

/-- Reads a numeral at the start of a text. -/
def read? : List Char → Option (Numeral × List Char)
  | '-' :: rest => readMagnitude? true rest
  | s => readMagnitude? false s

/-- Appends digits to a number as long as it stays below `2 ^ 64`; the second part is what is
left. -/
def gather (n : Nat) : List Nat → Nat × List Nat
  | [] => (n, [])
  | d :: digits =>
      if n * 10 + d < Nat.pow 2 64 then gather (n * 10 + d) digits else (n, d :: digits)

/-- The floating-point number nearest to a power of ten, for powers up to 308. -/
def powerOfTen (e : Nat) : Float :=
  Float.ofScientific 1 false e

/-- A number of 64 bits times a power of ten, unless that is too large. -/
def scale? (n : Nat) (e : Int) : Option Float :=
  let f := (UInt64.ofNat n).toFloat
  if n = 0 then some f
  else if 308 < e then none
  else if 0 ≤ e then
    let product := f * powerOfTen e.toNat
    if product.isInf then none else some product
  else if -308 ≤ e then some (f / powerOfTen (-e).toNat)
  else if -616 ≤ e then some (f / powerOfTen 308 / powerOfTen (-e - 308).toNat)
  else some 0

/-- The floating-point number of a numeral without sign: leading digits, the power of ten of the
last of them, and the exponent. -/
def magnitude? (n : Nat) (shift : Int) : (exponent : Option (Bool × List Nat)) → Option Float
  | none => scale? n shift
  | some (true, digits) => scale? n (shift - Text.ofDigits 10 digits)
  | some (false, digits) => scale? n (shift + Text.ofDigits 10 digits)

/-- The number that a numeral stands for. -/
def value? (x : Numeral) : Option Number :=
  let (n, dropped) := gather 0 x.whole
  match dropped, x.fraction, x.exponent with
  | [], none, none =>
    if !x.negative then some (.integer n)
    else if n = 0 ∨ Nat.pow 2 63 < n then some (.ofFloat (-(UInt64.ofNat n).toFloat))
    else some (.integer (-n))
  | dropped, fraction, exponent =>
    let digits := fraction.getD []
    let (n, unused) := gather n digits
    let shift : Int := (dropped.length : Int) - ((digits.length - unused.length : Nat) : Int)
    (magnitude? n shift exponent).map fun f => .ofFloat (if x.negative then -f else f)

end Numeral

end EventGateway.Json
