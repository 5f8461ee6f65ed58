/-!
# Instants and spans

Time is counted in whole nanoseconds. An instant is a signed count from the epoch and a span an
unsigned length. Nothing here reads a clock: every rule that depends on the present takes the
present instant as an argument.
-/

namespace TableQueue

structure Span where
  nanos : Nat
deriving DecidableEq, Repr, Inhabited

namespace Span

instance : LE Span := ⟨fun a b ↦ a.nanos ≤ b.nanos⟩
instance : LT Span := ⟨fun a b ↦ a.nanos < b.nanos⟩
instance (a b : Span) : Decidable (a ≤ b) := inferInstanceAs (Decidable (a.nanos ≤ b.nanos))
instance (a b : Span) : Decidable (a < b) := inferInstanceAs (Decidable (a.nanos < b.nanos))

@[simp] theorem le_iff (a b : Span) : a ≤ b ↔ a.nanos ≤ b.nanos := Iff.rfl

@[simp] theorem lt_iff (a b : Span) : a < b ↔ a.nanos < b.nanos := Iff.rfl

def zero : Span := ⟨0⟩

def ofMillis (millis : Nat) : Span := ⟨millis * 1000000⟩

def ofSeconds (seconds : Nat) : Span := ⟨seconds * 1000000000⟩

def millis (span : Span) : Nat := span.nanos / 1000000

/-- The whole milliseconds of a span as a 64-bit number, which drops what lies above 64 bits. -/
def wordMillis (span : Span) : Nat := span.millis % 18446744073709551616

def seconds (span : Span) : Nat := span.nanos / 1000000000

def subsecond (span : Span) : Nat := span.nanos % 1000000000

def max (a b : Span) : Span := if a.nanos ≤ b.nanos then b else a

def min (a b : Span) : Span := if a.nanos ≤ b.nanos then a else b

/-- The longest sleep, thirty years of 365 days; one that is meant to be longer ends then. -/
def longestSleep : Span := ofSeconds (30 * 365 * 86400)

/-- The longest span: 64 bits of seconds and one nanosecond less than another. -/
def longest : Span := ⟨18446744073709551616 * 1000000000 - 1⟩

theorem millis_ofMillis (millis : Nat) : (ofMillis millis).millis = millis := by
  simp [ofMillis, Span.millis]

theorem seconds_mul_add_subsecond (span : Span) :
    span.seconds * 1000000000 + span.subsecond = span.nanos := by
  simp only [seconds, subsecond]
  omega

end Span

/-- A point in time, counted from 1970-01-01T00:00:00Z and negative before. -/
structure Instant where
  nanos : Int
deriving DecidableEq, Repr, Inhabited

namespace Instant

instance : LE Instant := ⟨fun a b ↦ a.nanos ≤ b.nanos⟩
instance : LT Instant := ⟨fun a b ↦ a.nanos < b.nanos⟩
instance (a b : Instant) : Decidable (a ≤ b) := inferInstanceAs (Decidable (a.nanos ≤ b.nanos))
instance (a b : Instant) : Decidable (a < b) := inferInstanceAs (Decidable (a.nanos < b.nanos))

@[simp] theorem le_iff (a b : Instant) : a ≤ b ↔ a.nanos ≤ b.nanos := Iff.rfl

@[simp] theorem lt_iff (a b : Instant) : a < b ↔ a.nanos < b.nanos := Iff.rfl

def ofMillis (millis : Int) : Instant := ⟨millis * 1000000⟩

def millis (instant : Instant) : Int := Int.fdiv instant.nanos 1000000

def after (instant : Instant) (span : Span) : Instant := ⟨instant.nanos + span.nanos⟩

def before (instant : Instant) (span : Span) : Instant := ⟨instant.nanos - span.nanos⟩

/-- The span from an earlier instant, zero if it is not earlier. -/
def since (instant earlier : Instant) : Span := ⟨(instant.nanos - earlier.nanos).toNat⟩

/-- The first whole millisecond that is not before an instant; timers fire on these. -/
def nextTick (instant : Instant) : Instant :=
  ⟨-Int.fdiv (-instant.nanos) 1000000 * 1000000⟩

/-- The instant at which a sleep that begins at an instant is over. -/
def afterSleep (instant : Instant) (span : Span) : Instant :=
  instant.after (span.min Span.longestSleep)

/-- The span since another instant is zero exactly if the instant is not later. -/
theorem since_eq_zero_iff (instant earlier : Instant) :
    instant.since earlier = Span.zero ↔ instant ≤ earlier := by
  simp only [since, Span.zero, Span.mk.injEq, le_iff]
  omega

@[simp] theorem after_since (instant : Instant) (span : Span) :
    (instant.after span).since instant = span := by
  cases span
  simp only [after, since, Span.mk.injEq]
  omega

end Instant

end TableQueue
