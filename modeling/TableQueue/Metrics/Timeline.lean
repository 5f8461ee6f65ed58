import TableQueue.Metrics.Basic

/-!
# Measurements over time

Counters and timers used against one sink on a virtual clock. A running timer is held under a number
and recorded when it is let go of, either explicitly or because another timer takes its number.
-/

namespace TableQueue.Metrics

/-- What happens to a sink. -/
inductive Event where
  | increment (counter : Counter)
  | record (timer : Timer) (elapsed : Span)
  | start (timer : Timer) (guard : Nat)
  | stop (guard : Nat)
  | advance (span : Span)
deriving Repr

/-- A sink, the running timers and the time. -/
structure Timeline where
  sink : Sink
  running : List (Nat × Timer × Instant)
  now : Instant

namespace Timeline

/-- Lets go of the timer under a number and records it. -/
def stop (timeline : Timeline) (guard : Nat) : Timeline × List Measurement :=
  match timeline.running.find? (·.1 == guard) with
  | none => (timeline, [])
  | some (_, timer, started) =>
    ({ timeline with running := timeline.running.filter (·.1 != guard) },
      timeline.sink.record timer (timeline.now.since started))

def step (timeline : Timeline) : Event → Timeline × List Measurement
  | .increment counter => (timeline, timeline.sink.increment counter)
  | .record timer elapsed => (timeline, timeline.sink.record timer elapsed)
  | .start timer guard =>
    let (stopped, measured) := timeline.stop guard
    ({ stopped with running := stopped.running ++ [(guard, timer, timeline.now)] }, measured)
  | .stop guard => timeline.stop guard
  | .advance span => ({ timeline with now := timeline.now.after span }, [])

def observe (timeline : Timeline) : List Event → List (List Measurement)
  | [] => []
  | event :: rest =>
    let (next, measured) := timeline.step event
    measured :: observe next rest

end Timeline

end TableQueue.Metrics
