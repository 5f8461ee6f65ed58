/-!
# Whole numbers in decimal

Three ways in which texts spell whole numbers: bare digits, digits that admit a plus sign, and
digits with either sign. Each reader says how large a number it admits; a text beyond the limit is
refused rather than wrapped.
-/

namespace TableQueue.Text

def maxUnsigned64 : Nat := 18446744073709551615

def maxSigned64 : Int := 9223372036854775807

def minSigned64 : Int := -9223372036854775808

def isDigit (c : Char) : Bool :=
  '0' ≤ c && c ≤ '9'

def digitValue (c : Char) : Nat :=
  c.toNat - '0'.toNat

def digitsValue (digits : List Char) : Nat :=
  digits.foldl (fun n c ↦ 10 * n + digitValue c) 0

def natural? (text : List Char) : Option Nat :=
  if !text.isEmpty && text.all isDigit then some (digitsValue text) else none

/-- Reads a number that is at least one, has no leading zero and fits 64 bits. -/
def positive? (text : List Char) : Option Nat :=
  if text.head? = some '0' then none
  else (natural? text).filter (· ≤ maxUnsigned64)

/-- Reads an unsigned 64-bit number, with or without a plus sign. -/
def unsigned64? (text : List Char) : Option Nat :=
  let digits := match text with
    | '+' :: rest => rest
    | _ => text
  (natural? digits).filter (· ≤ maxUnsigned64)

/-- Reads a signed 64-bit number, with or without a sign. -/
def signed64? (text : List Char) : Option Int :=
  let value : Option Int := match text with
    | '+' :: rest => (natural? rest).map Int.ofNat
    | '-' :: rest => (natural? rest).map fun n ↦ -Int.ofNat n
    | _ => (natural? text).map Int.ofNat
  value.filter fun n ↦ minSigned64 ≤ n && n ≤ maxSigned64

end TableQueue.Text
