import TableQueue.Time.Basic

/-!
# Ticks

Timers fire on whole milliseconds, the ticks. The next tick of an instant is the first that is not
before it, the last tick the last that is not after it.
-/

namespace TableQueue.Instant

theorem nextTick_nanos (instant : Instant) :
    instant.nextTick.nanos = -(-instant.nanos / 1000000) * 1000000 := by
  rw [nextTick, Int.fdiv_eq_ediv_of_nonneg _ (by decide)]

/-- A timer does not fire early. -/
theorem le_nextTick (instant : Instant) : instant ≤ instant.nextTick := by
  rw [le_iff, nextTick_nanos]
  omega

/-- A window of whole milliseconds ends between the same two ticks as it begins. -/
theorem nextTick_after_ofMillis (instant : Instant) (millis : Nat) :
    (instant.after (Span.ofMillis millis)).nextTick =
      instant.nextTick.after (Span.ofMillis millis) := by
  have hnanos : (instant.after (Span.ofMillis millis)).nextTick.nanos =
      (instant.nextTick.after (Span.ofMillis millis)).nanos := by
    rw [nextTick_nanos]
    simp only [after, nextTick_nanos, Span.ofMillis]
    omega
  exact congrArg Instant.mk hnanos

/-- The next tick is a tick. -/
theorem nextTick_nextTick (instant : Instant) : instant.nextTick.nextTick = instant.nextTick := by
  have hnanos : instant.nextTick.nextTick.nanos = instant.nextTick.nanos := by
    rw [nextTick_nanos, nextTick_nanos]
    omega
  exact congrArg Instant.mk hnanos

theorem eq_of_le_of_le {instant instant' : Instant} (h : instant ≤ instant')
    (h' : instant' ≤ instant) : instant = instant' :=
  congrArg Instant.mk (Int.le_antisymm h h')

theorem nextTick_le_nextTick {instant later : Instant} (h : instant ≤ later) :
    instant.nextTick ≤ later.nextTick := by
  rw [le_iff] at h
  rw [le_iff, nextTick_nanos, nextTick_nanos]
  omega

end TableQueue.Instant
