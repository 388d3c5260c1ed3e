/-!
# Shortest decimals

A binary floating-point number stands for the real numbers that round to it, an interval around its
value.  Its shortest decimal is the one with the fewest digits in that interval, and of those the
nearest to the value.  All is exact arithmetic on natural numbers.
-/

namespace EventGateway.Decimal

/-- A binary number `mantissa · 2 ^ exponent`.  `narrow` tells that the next smaller number of the
format is only half as far away as the next larger one. -/
structure Binary where
  mantissa : Nat
  exponent : Int
  narrow : Bool
deriving DecidableEq, Repr

/-- The magnitude that 64 bits of the binary interchange format stand for, if it is finite. -/
def Binary.ofBits? (bits : UInt64) : Option Binary :=
  let fraction : Nat := bits.toNat % Nat.pow 2 52
  let field : Nat := bits.toNat / Nat.pow 2 52 % Nat.pow 2 11
  if field = Nat.pow 2 11 - 1 then none
  else if field = 0 then some ⟨fraction, -1074, false⟩
  else some ⟨fraction + Nat.pow 2 52, (field : Int) - 1075, fraction = 0 && field > 1⟩

/-- Whether the sign bit is set. -/
def isNegative (bits : UInt64) : Bool :=
  bits.toNat / Nat.pow 2 63 % 2 == 1

/-- A decimal `digits · 10 ^ exponent`. -/
structure Scaled where
  digits : Nat
  exponent : Int
deriving DecidableEq, Repr

/-- `n · base ^ e` as numerator and denominator. -/
def ratio (n base : Nat) (e : Int) : Nat × Nat :=
  if 0 ≤ e then (n * Nat.pow base e.toNat, 1) else (n, Nat.pow base (-e).toNat)

/-- The largest `k` with `10 ^ k ≤ num / den`, for `num` and `den` above zero. -/
def log10 (num den : Nat) : Int :=
  let guess : Int := ((Nat.toDigits 10 num).length : Int) - ((Nat.toDigits 10 den).length : Int)
  let (a, b) := ratio 1 10 guess
  if a * den ≤ num * b then guess else guess - 1

/-- The multiple of `10 ^ k` next to the value that rounds to the number, if one of the two
neighbours does. -/
def onGrid? (x : Binary) (k : Int) : Option Nat :=
  -- quarters of the last place, so that the ends of the interval are whole
  let value := 4 * x.mantissa
  let low := if x.narrow then value - 1 else value - 2
  let high := value + 2
  -- `(unitNum / unitDen)` is one quarter in units of `10 ^ k`
  let (twoNum, twoDen) := ratio 1 2 (x.exponent - 2)
  let (tenNum, tenDen) := ratio 1 10 k
  let unitNum := twoNum * tenDen
  let unitDen := twoDen * tenNum
  let below := value * unitNum / unitDen
  let above := below + 1
  let closed := x.mantissa % 2 == 0
  let fits (c : Nat) : Bool :=
    if closed then low * unitNum ≤ c * unitDen && c * unitDen ≤ high * unitNum
    else low * unitNum < c * unitDen && c * unitDen < high * unitNum
  match fits below, fits above with
  | false, false => none
  | true, false => some below
  | false, true => some above
  | true, true =>
    let toBelow := value * unitNum - below * unitDen
    let toAbove := above * unitDen - value * unitNum
    if toBelow < toAbove then some below
    else if toAbove < toBelow then some above
    else if below % 2 = 0 then some below else some above

/-- Tries grids of ever more digits. -/
def search (x : Binary) (top : Int) : (tries : Nat) → (count : Nat) → Scaled
  | 0, _ => ⟨x.mantissa, x.exponent⟩
  | tries + 1, count =>
    let k := top - count + 1
    match onGrid? x k with
    | some digits => ⟨digits, k⟩
    | none => search x top tries (count + 1)

/-- Moves the zeros at the end of the digits into the exponent. -/
def dropZeros (s : Scaled) : (tries : Nat) → Scaled
  | 0 => s
  | tries + 1 => if s.digits % 10 = 0 then dropZeros ⟨s.digits / 10, s.exponent + 1⟩ tries else s

/-- The shortest decimal of a number above zero.  Seventeen digits always suffice. -/
def shortest (x : Binary) : Scaled :=
  let (num, den) := ratio x.mantissa 2 x.exponent
  dropZeros (search x (log10 num den) 17 1) 17

end EventGateway.Decimal
