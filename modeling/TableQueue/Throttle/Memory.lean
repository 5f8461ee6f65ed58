import TableQueue.Throttle.Rule

/-!
# Failures remembered by a rule

A rule that admits `N` failures keeps a ring of `N` slots. Each failure writes the instant at which
it stops counting into the slot at the ring's position and moves the position on, so that it goes
around. The slot at the position, which is the next to be overwritten, says how long a caller has to
wait. A success empties the slots of a rule that resets and leaves the position where it is.
-/

namespace TableQueue.Throttle

/-- A rule with its ring. -/
structure Memory where
  rule : Rule
  /-- The instants at which the remembered failures stop counting. -/
  slots : List (Option Instant)
  /-- The slot that is read and written next. -/
  position : Nat
  position_lt : position < slots.length
deriving Repr

namespace Memory

/-- A rule that has not seen a failure. It has one slot even if the rule admits none. -/
def ofRule (rule : Rule) : Memory where
  rule := rule
  slots := List.replicate (max 1 rule.maxEvents) none
  position := 0
  position_lt := by
    rw [List.length_replicate]
    omega

def window (memory : Memory) : Span :=
  Span.ofMillis memory.rule.windowMillis

/-- A failure is written at the position. -/
def registerFailure (memory : Memory) (now : Instant) : Memory where
  rule := memory.rule
  slots := memory.slots.set memory.position (some (now.after memory.window))
  position := (memory.position + 1) % memory.slots.length
  position_lt := by
    rw [List.length_set]
    exact Nat.mod_lt _ (Nat.zero_lt_of_lt memory.position_lt)

def registerSuccess (memory : Memory) : Memory :=
  if memory.rule.resetsOnSuccess then
    { memory with
      slots := memory.slots.map fun _ ↦ none
      position_lt := by
        rw [List.length_map]
        exact memory.position_lt }
  else memory

def delay (memory : Memory) (now : Instant) : Span :=
  match memory.slots.get ⟨memory.position, memory.position_lt⟩ with
  | some unblockedAt => unblockedAt.since now
  | none => Span.zero

@[simp] theorem rule_ofRule (rule : Rule) : (ofRule rule).rule = rule := rfl

@[simp] theorem rule_registerFailure (memory : Memory) (now : Instant) :
    (memory.registerFailure now).rule = memory.rule := rfl

@[simp] theorem rule_registerSuccess (memory : Memory) :
    memory.registerSuccess.rule = memory.rule := by
  unfold registerSuccess
  split <;> rfl

/-- A failure leaves the ring as long as it is. -/
theorem length_registerFailure (memory : Memory) (now : Instant) :
    (memory.registerFailure now).slots.length = memory.slots.length :=
  List.length_set

theorem length_registerSuccess (memory : Memory) :
    memory.registerSuccess.slots.length = memory.slots.length := by
  unfold registerSuccess
  split <;> simp

end Memory

end TableQueue.Throttle
