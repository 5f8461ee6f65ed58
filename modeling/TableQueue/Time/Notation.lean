import TableQueue.Time.Basic

/-!
# Short span notation

A span is written in the largest unit that does not exceed it, with the fraction that remains and no
trailing zeros: `60s`, `1.5s`, `100ms`, `1.001µs`, `0ns`.
-/

namespace TableQueue.Span

/-- The fraction `numerator` over ten to the `places`, without trailing zeros. -/
def fractionDigits : Nat → Nat → List Char
  | 0, _ => []
  | places + 1, numerator =>
    if numerator = 0 then []
    else
      let unit := Nat.pow 10 places
      (Nat.digitChar (numerator / unit)) :: fractionDigits places (numerator % unit)

/-- A whole count of a unit and a fraction of `places` decimal places. -/
def inUnit (whole fraction places : Nat) (unit : String) : String :=
  let digits := fractionDigits places fraction
  toString whole ++ (if digits.isEmpty then "" else "." ++ String.ofList digits) ++ unit

def shortText (span : Span) : String :=
  let n := span.nanos
  if 0 < span.seconds then inUnit span.seconds span.subsecond 9 "s"
  else if 1000000 ≤ n then inUnit (n / 1000000) (n % 1000000) 6 "ms"
  else if 1000 ≤ n then inUnit (n / 1000) (n % 1000) 3 "µs"
  else inUnit n 0 0 "ns"

end TableQueue.Span
