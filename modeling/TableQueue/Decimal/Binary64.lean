/-!
# Binary floating point numbers

A double is kept as its sign, a whole significand below 2^53 and a power of two, so that its value
is exact and every statement about it is a statement about whole numbers. A ratio is rounded to the
nearest double, and of two nearest to the one with the even significand.
-/

namespace TableQueue

/-- A binary floating point number of 64 bits. -/
inductive Binary64 where
  /-- The value `significand * 2 ^ exponent`, with its sign. -/
  | finite (negative : Bool) (significand : Nat) (exponent : Int)
  | infinite (negative : Bool)
  | nan
deriving DecidableEq, Repr, Inhabited

namespace Binary64

/-- The least power of two of a double. -/
def leastExponent : Int := -1074

/-- The greatest power of two of a double. -/
def greatestExponent : Int := 971

def zero (negative : Bool) : Binary64 := .finite negative 0 leastExponent

/-- The quotient nearest to a ratio; a tie goes to the even one. -/
def roundHalfEven (numerator denominator : Nat) : Nat :=
  let quotient := numerator / denominator
  let rest := 2 * (numerator % denominator)
  if rest < denominator then quotient
  else if denominator < rest then quotient + 1
  else quotient + quotient % 2

/-- A ratio divided by a power of two, as a ratio of whole numbers. -/
def scaled (numerator denominator : Nat) (exponent : Int) : Nat × Nat :=
  if exponent < 0 then (numerator * Nat.pow 2 exponent.natAbs, denominator)
  else (numerator, denominator * Nat.pow 2 exponent.natAbs)

/-- The power of two at which a ratio has 53 significant bits, or the least one. -/
def exponentFor (numerator denominator : Nat) : Int :=
  let guess : Int := (Nat.log2 numerator : Int) - Nat.log2 denominator - 52
  let (n, d) := scaled numerator denominator guess
  let exponent := if n < Nat.pow 2 52 * d then guess - 1 else guess
  max leastExponent exponent

def ofRatio (negative : Bool) (numerator denominator : Nat) : Binary64 :=
  if numerator = 0 then zero negative
  else
    let exponent := exponentFor numerator denominator
    let (n, d) := scaled numerator denominator exponent
    let significand := roundHalfEven n d
    let (significand, exponent) :=
      if significand = Nat.pow 2 53 then (Nat.pow 2 52, exponent + 1) else (significand, exponent)
    if greatestExponent < exponent then .infinite negative
    else .finite negative significand exponent

def ofNat (n : Nat) : Binary64 := ofRatio false n 1

/-- The size of a finite double as a ratio. -/
def ratio : Binary64 → Nat × Nat
  | .finite _ significand exponent =>
    if exponent < 0 then (significand, Nat.pow 2 exponent.natAbs)
    else (significand * Nat.pow 2 exponent.natAbs, 1)
  | _ => (0, 1)

def addNonneg (a b : Binary64) : Binary64 :=
  let (n, d) := a.ratio
  let (m, e) := b.ratio
  ofRatio false (n * e + m * d) (d * e)

def mulNonneg (a b : Binary64) : Binary64 :=
  let (n, d) := a.ratio
  let (m, e) := b.ratio
  ofRatio false (n * m) (d * e)

def divNonneg (a b : Binary64) : Binary64 :=
  let (n, d) := a.ratio
  let (m, e) := b.ratio
  ofRatio false (n * e) (d * m)

end Binary64

end TableQueue
