import TableQueue.Time.Basic

/-!
# Calendar and time stamps

Instants are written as RFC 3339 time stamps in universal time: the proleptic Gregorian date, the
time of day, and as many of zero, three, six or nine decimal places of the second as the instant
needs. Years outside four digits carry a sign. A clock may also stand in a leap second.
-/

namespace TableQueue

structure Date where
  year : Int
  month : Nat
  day : Nat
deriving DecidableEq, Repr

namespace Date

/-- The date a number of days after 1970-01-01.

Days are counted from a first of March that starts a cycle of 400 years, so that the leap day ends
the year and the months from March on have a fixed pattern of lengths. -/
def ofEpochDay (epochDay : Int) : Date :=
  let shifted := epochDay + 719468
  let cycle := Int.fdiv shifted 146097
  let dayOfCycle := (Int.fmod shifted 146097).toNat
  let yearOfCycle :=
    (dayOfCycle - dayOfCycle / 1460 + dayOfCycle / 36524 - dayOfCycle / 146096) / 365
  let dayOfYear := dayOfCycle - (365 * yearOfCycle + yearOfCycle / 4 - yearOfCycle / 100)
  let monthFromMarch := (5 * dayOfYear + 2) / 153
  let day := dayOfYear - (153 * monthFromMarch + 2) / 5 + 1
  let month := if monthFromMarch < 10 then monthFromMarch + 3 else monthFromMarch - 9
  let year := (yearOfCycle : Int) + cycle * 400 + (if month ≤ 2 then 1 else 0)
  ⟨year, month, day⟩

end Date

def zeroFilled (width n : Nat) : String :=
  let digits := toString n
  String.ofList (List.replicate (width - digits.length) '0') ++ digits

namespace Instant

/-- A year as four digits, or with its sign where four digits do not hold it. -/
def yearText (year : Int) : String :=
  if 0 ≤ year && year ≤ 9999 then zeroFilled 4 year.toNat
  else (if year < 0 then "-" else "+") ++ zeroFilled 4 year.natAbs

/-- The decimal places of a second, in groups of three. -/
def fractionText (nanos : Nat) : String :=
  if nanos = 0 then ""
  else if nanos % 1000000 = 0 then "." ++ zeroFilled 3 (nanos / 1000000)
  else if nanos % 1000 = 0 then "." ++ zeroFilled 6 (nanos / 1000)
  else "." ++ zeroFilled 9 nanos

/-- The RFC 3339 time stamp in universal time, with seconds added to the field of the second. -/
def timestampAdding (added : Nat) (instant : Instant) : String :=
  let seconds := Int.fdiv instant.nanos 1000000000
  let nanos := (Int.fmod instant.nanos 1000000000).toNat
  let date := Date.ofEpochDay (Int.fdiv seconds 86400)
  let second := (Int.fmod seconds 86400).toNat
  yearText date.year ++ "-" ++ zeroFilled 2 date.month ++ "-" ++ zeroFilled 2 date.day ++ "T" ++
    zeroFilled 2 (second / 3600) ++ ":" ++ zeroFilled 2 (second / 60 % 60) ++ ":" ++
    zeroFilled 2 (second % 60 + added) ++ fractionText nanos ++ "+00:00"

/-- The RFC 3339 time stamp in universal time. -/
def timestamp (instant : Instant) : String :=
  instant.timestampAdding 0

end Instant

/-- An instant as a clock shows it. During a leap second, which follows the second 59, the clock
shows the second 60 of the same minute, while the instant is counted on. -/
structure ClockTime where
  instant : Instant
  inLeapSecond : Bool
deriving DecidableEq, Repr, Inhabited

namespace ClockTime

/-- The time on a clock outside leap seconds. -/
def ofInstant (instant : Instant) : ClockTime := ⟨instant, false⟩

/-- The RFC 3339 time stamp in universal time. -/
def timestamp (time : ClockTime) : String :=
  if time.inLeapSecond then (time.instant.before (Span.ofSeconds 1)).timestampAdding 1
  else time.instant.timestamp

@[simp] theorem timestamp_ofInstant (instant : Instant) :
    (ofInstant instant).timestamp = instant.timestamp := rfl

end ClockTime

end TableQueue
