import TableQueue.Time.Basic

/-!
# Database calls in flight

A supervisor wants to know which workers are stuck in a database call. Each worker has at most one
entry: the instant at which its latest call began. The entry goes when a call of that worker ends.
-/

namespace TableQueue

/-- The registry of database calls in flight. -/
structure Health where
  /-- The age beyond which a call counts as hung. -/
  threshold : Span
  /-- The calls in flight, one for each worker, with the instants at which they began. -/
  calls : List (String × Instant)
deriving Repr

namespace Health

/-- A call counts as hung after a minute unless told otherwise. -/
def defaultThreshold : Span := Span.ofSeconds 60

def ofThreshold (threshold : Span) : Health := ⟨threshold, []⟩

def finish (health : Health) (worker : String) : Health :=
  { health with calls := health.calls.filter (·.1 != worker) }

/-- A worker begins a call; an entry it still has is replaced. -/
def begin (health : Health) (worker : String) (now : Instant) : Health :=
  let others := health.finish worker
  { others with calls := others.calls ++ [(worker, now)] }

/-- The workers whose call is older than an age, in ascending order of their names. -/
def hungSince (health : Health) (age : Span) (now : Instant) : List String :=
  ((health.calls.filter fun call ↦ decide (age < now.since call.2)).map (·.1)).mergeSort
    fun a b ↦ !decide (b < a)

def hung (health : Health) (now : Instant) : List String :=
  health.hungSince health.threshold now

/-! ## Calls held by guards -/

/-- What happens to a registry whose calls are held by numbered guards. -/
inductive Event where
  | call (worker : String) (guard : Nat)
  | drop (guard : Nat)
  | advance (span : Span)
  | since (age : Span)
deriving Repr

/-- A registry with its guards and the time. -/
structure Timeline where
  health : Health
  /-- The guards held, with the worker and the start of the call of each. -/
  guards : List (Nat × String × Instant)
  now : Instant

namespace Timeline

/-- Lets go of a guard, which ends the call of its worker. -/
def drop (timeline : Timeline) (guard : Nat) : Timeline :=
  match timeline.guards.find? (·.1 == guard) with
  | none => timeline
  | some (_, worker, _) =>
    { timeline with
      health := timeline.health.finish worker
      guards := timeline.guards.filter (·.1 != guard) }

/-- Begins a call under a guard; a guard that had this number is let go of just after. -/
def call (timeline : Timeline) (worker : String) (guard : Nat) : Timeline :=
  let dropped :=
    { timeline with health := timeline.health.begin worker timeline.now }.drop guard
  { dropped with guards := dropped.guards ++ [(guard, worker, timeline.now)] }

/-- One event, with the age at which the registry is looked at after it. -/
def step (timeline : Timeline) : Event → Timeline × Span
  | .call worker guard => (timeline.call worker guard, timeline.health.threshold)
  | .drop guard => (timeline.drop guard, timeline.health.threshold)
  | .advance span =>
    ({ timeline with now := timeline.now.after span }, timeline.health.threshold)
  | .since age => (timeline, age)

def observe (timeline : Timeline) : List Event → List (List String)
  | [] => []
  | event :: rest =>
    let (next, age) := timeline.step event
    next.health.hungSince age next.now :: observe next rest

end Timeline

end Health

end TableQueue
