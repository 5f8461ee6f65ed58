import TableQueue.Throttle.Memory

/-!
# Throttles

A throttle combines the rules of a set: a caller waits for the longest delay any rule imposes, a
failure counts against every rule, and a success clears the rules that reset and wakes every caller
that waits. A waiting caller looks at the rules again whenever its sleep ends or a success wakes it.
-/

namespace TableQueue

/-- A rule set with what each rule remembers. -/
structure Throttle where
  /-- The text of the rule set, trimmed. -/
  spec : String
  rules : List Throttle.Memory
  /-- The number of successes registered so far; a caller that waits is woken when it grows. -/
  successes : Nat
deriving Repr

namespace Throttle

def ofSpec (spec : String) : Except Fault Throttle := do
  let rules ← Rule.parseSet spec.toList
  pure ⟨Text.trimmed spec, rules.map Memory.ofRule, 0⟩

def free : Throttle := ⟨"", [], 0⟩

/-- How long a caller has to wait at present. -/
def currentDelay (throttle : Throttle) (now : Instant) : Span :=
  (throttle.rules.map (·.delay now)).foldl Span.max Span.zero

def register (throttle : Throttle) (success : Bool) (now : Instant) : Throttle :=
  if success then
    { throttle with
      rules := throttle.rules.map Memory.registerSuccess
      successes := throttle.successes + 1 }
  else { throttle with rules := throttle.rules.map (·.registerFailure now) }

/-- A caller asleep: when its sleep ends, and the success count when it fell asleep. -/
structure Sleeper where
  wakesAt : Instant
  seen : Nat
deriving DecidableEq, Repr

/-- A caller looks at the rules: it passes, or sleeps for the current delay. -/
def consult (throttle : Throttle) (now : Instant) : Option Sleeper :=
  let delay := throttle.currentDelay now
  if delay = Span.zero then none
  else some ⟨(now.after delay).nextTick, throttle.successes⟩

/-- Whether a sleeper is due to look at the rules again. -/
def rouses (throttle : Throttle) (sleeper : Sleeper) (now : Instant) : Bool :=
  decide (sleeper.wakesAt ≤ now) || sleeper.seen != throttle.successes

def debugText (throttle : Throttle) : String :=
  "Throttle \x7b spec: " ++ Text.quoted throttle.spec ++ " \x7d"

end Throttle

end TableQueue
