import TableQueue.Fault
import TableQueue.Text.Blank
import TableQueue.Text.Digits

/-!
# Deduplication breaker

Looking up duplicates may become slow. A lookup that takes longer than a limit switches
deduplication off for a period counted from the end of that lookup. Clock readings, limits and
periods are whole milliseconds in the signed 64-bit range, and sums that leave the range stay at its
end.
-/

namespace TableQueue

/-- A number held within the signed 64-bit range. -/
def saturate64 (n : Int) : Int :=
  max Text.minSigned64 (min Text.maxSigned64 n)

/-- The switch that turns deduplication off for a while. -/
structure Breaker where
  /-- The longest duration of a lookup that leaves deduplication on. -/
  limit : Int
  /-- How long deduplication stays off. -/
  period : Int
  /-- The last reading at which deduplication is off. -/
  disabledUntil : Int
deriving DecidableEq, Repr

namespace Breaker

def ofMillis (limit period : Nat) : Breaker :=
  ⟨min limit Text.maxSigned64, min period Text.maxSigned64, 0⟩

def neverTrips : Breaker :=
  ⟨Text.maxSigned64, 0, 0⟩

/-- Reads a limit and a period around a slash; a blank text never trips. -/
def parse (spec : String) : Except Fault Breaker :=
  let text := Text.trim spec.toList
  if text.isEmpty then .ok neverTrips
  else
    let limit := Text.unsigned64? (Text.trim (text.takeWhile (· != '/')))
    let period := Text.unsigned64? (Text.trim ((text.dropWhile (· != '/')).drop 1))
    match text.contains '/', limit, period with
    | true, some limit, some period => .ok (ofMillis limit period)
    | _, _, _ => .error (.invalidDeduplicateDisable (String.ofList text))

/-- Whether deduplication is on at a clock reading. -/
def closedAt (breaker : Breaker) (reading : Int) : Bool :=
  decide (breaker.disabledUntil < reading)

def duration (started ended : Int) : Int :=
  saturate64 (ended - started)

def trips (breaker : Breaker) (started ended : Int) : Bool :=
  decide (breaker.limit < duration started ended)

/-- A lookup has ended. -/
def finish (breaker : Breaker) (started ended : Int) : Breaker :=
  if breaker.trips started ended then
    { breaker with disabledUntil := saturate64 (ended + breaker.period) }
  else breaker

/-- The end of a lookup leaves the limit as it is. -/
theorem finish_limit (breaker : Breaker) (started ended : Int) :
    (breaker.finish started ended).limit = breaker.limit := by
  unfold finish
  split <;> rfl

/-- The end of a lookup leaves the period as it is. -/
theorem finish_period (breaker : Breaker) (started ended : Int) :
    (breaker.finish started ended).period = breaker.period := by
  unfold finish
  split <;> rfl

/-! ## Overlapping lookups -/

/-- A breaker with the lookups in progress, each under a number with the reading at its start. -/
structure Session where
  breaker : Breaker
  running : List (Nat × Int)

namespace Session

/-- Ends the lookup under a number, if one is in progress. -/
def finish (session : Session) (id : Nat) (reading : Int) : Session :=
  match session.running.find? (·.1 == id) with
  | none => session
  | some (_, started) =>
    ⟨session.breaker.finish started reading, session.running.filter (·.1 != id)⟩

/-- Begins a lookup under a number and then ends the one that was there. -/
def begin (session : Session) (id : Nat) (reading : Int) : Session :=
  let ended := session.finish id reading
  ⟨ended.breaker, ended.running ++ [(id, reading)]⟩

end Session

end Breaker

end TableQueue
