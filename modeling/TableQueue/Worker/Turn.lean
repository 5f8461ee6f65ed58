import TableQueue.Metrics.Basic
import TableQueue.Worker.Point

/-!
# A worker's turn

A turn is what a worker does between two points. It changes the worker and what the crew shares, and
it leaves notes of everything that it logs, measures or merges, in order.
-/

namespace TableQueue

/-- A worker of a crew. -/
structure Worker (α : Type) where
  name : String
  /-- For each queue polled since the bounds were cleared, an instant before which no row is looked
  for. -/
  bounds : List (String × Instant)
  /-- The number of passes that remain before the bounds are cleared. -/
  countdown : Int
  point : Point α

namespace Worker

variable {α : Type}

def ofName (settings : Settings) (name : String) : Worker α :=
  ⟨name, [], settings.rescanEvery, .idle⟩

/-- The bound of a queue, if it is remembered. -/
def bound? (worker : Worker α) (queue : String) : Option Instant :=
  worker.bounds.lookup queue

def setBound (worker : Worker α) (queue : String) (bound : Instant) : Worker α :=
  { worker with bounds := (queue, bound) :: worker.bounds.filter (·.1 != queue) }

end Worker

/-- Something that a worker lets be known. -/
inductive Note (α : Type) where
  | logged (event : Log.Event)
  | timed (timer : Timer) (elapsed : Span)
  | counted (counter : Counter)
  | merged (job duplicate : α)

/-- The present, as a worker sees it. -/
structure Moment where
  now : Instant
  /-- Whether the crew has been told to stop. -/
  stopped : Bool

/-- A turn so far. -/
structure Turn (α : Type) where
  shared : Shared
  worker : Worker α
  notes : List (Note α)

namespace Turn

variable {α : Type}

def goTo (turn : Turn α) (point : Point α) : Turn α :=
  { turn with worker := { turn.worker with point } }

def note (turn : Turn α) (note : Note α) : Turn α :=
  { turn with notes := turn.notes ++ [note] }

def log (turn : Turn α) (level : Level) (message : String)
    (fields : List (String × Log.FieldValue)) : Turn α :=
  turn.note (.logged ⟨level, message, ("worker", .shown turn.worker.name) :: fields⟩)

def logFault (turn : Turn α) (message : String) (fault : Fault) : Turn α :=
  turn.log .error message [("error", .shown fault.message)]

def beginCall (turn : Turn α) (moment : Moment) : Turn α :=
  { turn with shared :=
    { turn.shared with health := turn.shared.health.begin turn.worker.name moment.now } }

def endCall (turn : Turn α) : Turn α :=
  { turn with shared :=
    { turn.shared with health := turn.shared.health.finish turn.worker.name } }

/-- Measures an operation that began at some instant. -/
def time (turn : Turn α) (moment : Moment) (timer : Timer) (begun : Instant) : Turn α :=
  turn.note (.timed timer (moment.now.since begun))

def registerConnect (turn : Turn α) (moment : Moment) (success : Bool) : Turn α :=
  { turn with shared :=
    { turn.shared with
      connectThrottle := turn.shared.connectThrottle.register success moment.now } }

def registerJob (turn : Turn α) (moment : Moment) (success : Bool) : Turn α :=
  { turn with shared :=
    { turn.shared with
      failureThrottle := turn.shared.failureThrottle.register success moment.now } }

def setBound (turn : Turn α) (queue : String) (bound : Instant) : Turn α :=
  { turn with worker := turn.worker.setBound queue bound }

end Turn

end TableQueue
