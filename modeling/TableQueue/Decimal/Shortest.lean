import TableQueue.Decimal.Binary64

/-!
# Shortest decimals

A double is written with the fewest decimal digits that read back as the same double, and among
those with the digits nearest to its value, the larger of two that are equally near. The interval of
numbers that read back as a double reaches half way to its neighbours and contains its ends exactly
when the significand is even.
-/

namespace TableQueue.Binary64

structure Decimal where
  digits : Nat
  exponent : Int
deriving DecidableEq, Repr

/-- The half-way points around a value, all over one denominator: below, the value, above. -/
structure Interval where
  lower : Nat
  value : Nat
  upper : Nat
  denominator : Nat
  /-- Whether the half-way points themselves read back as the value. -/
  closed : Bool

/-- The interval of numbers that read back as a positive double. -/
def interval (significand : Nat) (exponent : Int) : Interval :=
  let narrow := significand = Nat.pow 2 52 ∧ leastExponent < exponent
  let value := 4 * significand
  let lower := value - (if narrow then 1 else 2)
  let scale := Nat.pow 2 exponent.natAbs
  if exponent < 0 then
    ⟨lower, value, value + 2, 4 * scale, significand % 2 == 0⟩
  else
    ⟨lower * scale, value * scale, (value + 2) * scale, 4, significand % 2 == 0⟩

def Interval.holds (bounds : Interval) (decimal : Decimal) : Bool :=
  let power := Nat.pow 10 decimal.exponent.natAbs
  let (n, d) : Nat × Nat :=
    if decimal.exponent < 0 then (decimal.digits, power) else (decimal.digits * power, 1)
  let low := bounds.lower * d
  let high := bounds.upper * d
  let n := n * bounds.denominator
  if bounds.closed then low ≤ n && n ≤ high else low < n && n < high

/--
The two neighbours of a value on the grid of multiples of a power of ten, nearest first; of two at
the same distance the upper one comes first.
-/
def gridNeighbours (bounds : Interval) (exponent : Int) : List Decimal :=
  let power := Nat.pow 10 exponent.natAbs
  let (n, d) : Nat × Nat :=
    if exponent < 0 then (bounds.value * power, bounds.denominator)
    else (bounds.value, bounds.denominator * power)
  let floor := n / d
  let below : Decimal := ⟨floor, exponent⟩
  let above : Decimal := ⟨floor + 1, exponent⟩
  if 2 * (n % d) < d then [below, above] else [above, below]

def leadingExponent (numerator denominator : Nat) : Int :=
  let bits : Int := (Nat.log2 numerator : Int) - Nat.log2 denominator
  let guess := Int.fdiv (bits * 30103) 100000
  let reaches (exponent : Int) : Bool :=
    if exponent < 0 then denominator ≤ numerator * Nat.pow 10 exponent.natAbs
    else denominator * Nat.pow 10 exponent.natAbs ≤ numerator
  if reaches (guess + 1) then guess + 1 else if reaches guess then guess else guess - 1

/-- Tries grids from coarse to fine and takes the first neighbour that reads back. -/
def firstHit (bounds : Interval) (leading : Int) : Nat → Nat → Option Decimal
  | _, 0 => none
  | places, fuel + 1 =>
    match (gridNeighbours bounds (leading - places)).find? bounds.holds with
    | some decimal => some decimal
    | none => firstHit bounds leading (places + 1) fuel

def shortestDecimal (significand : Nat) (exponent : Int) : Decimal :=
  if significand = 0 then ⟨0, 0⟩
  else
    let bounds := interval significand exponent
    let leading := leadingExponent bounds.value bounds.denominator
    (firstHit bounds leading 0 18).getD ⟨0, 0⟩

/-- A decimal written out by position, with no digit more than it needs. -/
def Decimal.positional (decimal : Decimal) : String :=
  let digits := Nat.toDigits 10 decimal.digits
  if 0 ≤ decimal.exponent then
    String.ofList digits ++ String.ofList (List.replicate
      (if decimal.digits = 0 then 0 else decimal.exponent.natAbs) '0')
  else
    let places := decimal.exponent.natAbs
    let filled := List.replicate (places + 1 - digits.length) '0' ++ digits
    let whole := filled.take (filled.length - places)
    let fraction := filled.drop (filled.length - places)
    let fraction := (fraction.reverse.dropWhile (· == '0')).reverse
    String.ofList whole ++ (if fraction.isEmpty then "" else "." ++ String.ofList fraction)

/-- A double in positional notation; whole values have no fraction. -/
def text : Binary64 → String
  | .nan => "NaN"
  | .infinite negative => if negative then "-inf" else "inf"
  | .finite negative significand exponent =>
    (if negative then "-" else "") ++ (shortestDecimal significand exponent).positional

end TableQueue.Binary64
