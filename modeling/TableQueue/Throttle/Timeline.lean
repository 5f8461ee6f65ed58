import TableQueue.Throttle.Basic

/-!
# A throttle over time

Plays a sequence of outcomes and of callers that wait against one throttle on a virtual clock. While
a caller waits, further outcomes arrive at given distances; the clock moves to whatever is due next,
the caller's wake-up or the next outcome, and a caller due at the same instant as an outcome looks
first.
-/

namespace TableQueue.Throttle

/-- What happens next to a throttle. -/
inductive Event where
  | register (success : Bool)
  | advance (span : Span)
  /-- A caller waits while outcomes arrive, each a span after the one before. -/
  | wait (arrivals : List (Span × Bool))
deriving Repr

/-- What was seen after an event. -/
structure Observation where
  delay : Span
  /-- How long the caller waited, where one did. -/
  waited : Option Span
deriving DecidableEq, Repr

/-- A throttle and the time. -/
structure Timeline where
  throttle : Throttle
  now : Instant

namespace Timeline

/-- The caller and the time at which it passed, if it has. -/
inductive Caller where
  | passed (moment : Instant)
  | asleep (sleeper : Sleeper)

def look (throttle : Throttle) (now : Instant) : Caller :=
  match throttle.consult now with
  | none => .passed now
  | some sleeper => .asleep sleeper

/-- Runs a sleeping caller up to an instant, as long as no outcome arrives. Each look either lets
the caller pass or shows an end of sleep that lies later, so that a bound on the looks suffices. -/
def sleepUntil (throttle : Throttle) (limit : Instant) : Nat → Caller → Caller
  | 0, caller => caller
  | _ + 1, .passed moment => .passed moment
  | fuel + 1, .asleep sleeper =>
    if sleeper.wakesAt ≤ limit then
      sleepUntil throttle limit fuel (look throttle sleeper.wakesAt)
    else .asleep sleeper

/-- Outcomes arrive while a caller waits. -/
def arrive (timeline : Timeline) (caller : Caller) : List (Span × Bool) → Timeline × Caller
  | [] => (timeline, caller)
  | (distance, success) :: rest =>
    let now := timeline.now.afterSleep distance
    let caller := sleepUntil timeline.throttle now (timeline.throttle.rules.length + 2) caller
    let throttle := timeline.throttle.register success now
    let caller := match caller with
      | .passed moment => .passed moment
      | .asleep sleeper =>
        if throttle.rouses sleeper now then look throttle now else .asleep sleeper
    arrive ⟨throttle, now⟩ caller rest

def finish (timeline : Timeline) : Nat → Caller → Instant
  | 0, _ => timeline.now
  | _ + 1, .passed moment => moment
  | fuel + 1, .asleep sleeper => finish timeline fuel (look timeline.throttle sleeper.wakesAt)

def step (timeline : Timeline) : Event → Timeline × Observation
  | .register success =>
    let throttle := timeline.throttle.register success timeline.now
    (⟨throttle, timeline.now⟩, ⟨throttle.currentDelay timeline.now, none⟩)
  | .advance span =>
    let now := timeline.now.after span
    (⟨timeline.throttle, now⟩, ⟨timeline.throttle.currentDelay now, none⟩)
  | .wait arrivals =>
    let (after, caller) := arrive timeline (look timeline.throttle timeline.now) arrivals
    let passed := finish after (after.throttle.rules.length + 2) caller
    let now : Instant := if after.now ≤ passed then passed else after.now
    (⟨after.throttle, now⟩,
      ⟨after.throttle.currentDelay now, some (passed.since timeline.now)⟩)

def observe (timeline : Timeline) : List Event → List Observation
  | [] => []
  | event :: rest =>
    let (next, observation) := timeline.step event
    observation :: observe next rest

end Timeline

end TableQueue.Throttle
