import TableQueue.Decimal.Binary64
import TableQueue.Text.Digits
import TableQueue.Text.Lowercase

/-!
# Reading decimals

A decimal is an optional sign, digits with at most one point among or beside them, and an optional
exponent with digits of its own; `inf`, `infinity` and `nan` are read in any case. The result is the
double nearest to the decimal.
-/

namespace TableQueue.Binary64

def cutSign : List Char → Bool × List Char
  | '-' :: rest => (true, rest)
  | '+' :: rest => (false, rest)
  | text => (false, text)

/-- Reads the exponent part of a decimal; nothing means zero. -/
def readExponent : List Char → Option Int
  | [] => some 0
  | mark :: rest =>
    if mark = 'e' ∨ mark = 'E' then
      let (negative, digits) := cutSign rest
      (Text.natural? digits).map fun n ↦ if negative then -(n : Int) else n
    else none

/-- The double nearest to `digits * 10 ^ exponent`.

Beyond a few hundred places on either side the result is known without writing the power out. -/
def ofDecimal (negative : Bool) (digits : Nat) (exponent : Int) : Binary64 :=
  let places : Int := (Nat.toDigits 10 digits).length
  if digits = 0 then zero negative
  else if 400 < exponent + places then .infinite negative
  else if exponent + places < -400 then zero negative
  else if exponent < 0 then ofRatio negative digits (Nat.pow 10 exponent.natAbs)
  else ofRatio negative (digits * Nat.pow 10 exponent.natAbs) 1

def readUnsigned (negative : Bool) (text : List Char) : Option Binary64 :=
  let lowered := text.map Char.toLower
  if lowered = "inf".toList ∨ lowered = "infinity".toList then some (.infinite negative)
  else if lowered = "nan".toList then some .nan
  else
    let whole := text.takeWhile Text.isDigit
    let rest := text.dropWhile Text.isDigit
    let (fraction, rest) := match rest with
      | '.' :: rest => (rest.takeWhile Text.isDigit, rest.dropWhile Text.isDigit)
      | _ => ([], rest)
    let digits := whole ++ fraction
    if digits.isEmpty then none
    else (readExponent rest).map fun exponent ↦
      ofDecimal negative (Text.digitsValue digits) (exponent - fraction.length)

def read? (text : List Char) : Option Binary64 :=
  let (negative, rest) := cutSign text
  readUnsigned negative rest

/-- The whole number nearest to a double's size, half way up. -/
def roundedSize (significand : Nat) (exponent : Int) : Nat :=
  if exponent < 0 then
    let scale := Nat.pow 2 exponent.natAbs
    (2 * significand + scale) / (2 * scale)
  else significand * Nat.pow 2 exponent.natAbs

/-- The nearest whole number within bounds; half way goes away from zero and a NaN to zero. -/
def toBounded (least greatest : Int) : Binary64 → Int
  | .nan => 0
  | .infinite negative => if negative then least else greatest
  | .finite negative significand exponent =>
    let size : Int := roundedSize significand exponent
    max least (min greatest (if negative then -size else size))

def isZero : Binary64 → Bool
  | .finite _ significand _ => significand == 0
  | _ => false

end TableQueue.Binary64
