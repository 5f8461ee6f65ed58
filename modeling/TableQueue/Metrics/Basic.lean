import TableQueue.Decimal.Binary64
import TableQueue.Time.Basic

/-!
# Measurements

The database operations of a worker are timed, and two events of its polling are counted. Durations
go to one histogram in milliseconds, with the operation as a label; each counter is an instrument of
its own. A sink either records measurements or discards them.
-/

namespace TableQueue

/-- The operations that are timed. -/
inductive Timer where
  | databaseConnect
  | dequeue
  | timestamp
  | deleteDuplicate
  | retry
  | postpone
  | failure
deriving DecidableEq, Repr

namespace Timer

def all : List Timer :=
  [databaseConnect, dequeue, timestamp, deleteDuplicate, retry, postpone, failure]

def name : Timer → String
  | databaseConnect => "database_connect"
  | dequeue => "dequeue"
  | timestamp => "timestamp"
  | deleteDuplicate => "delete_duplicate"
  | retry => "retry"
  | postpone => "postpone"
  | failure => "failure"

def ofName? (name : String) : Option Timer :=
  all.find? (·.name == name)

end Timer

/-- The events that are counted. -/
inductive Counter where
  /-- The remembered lower bounds were cleared. -/
  | rescan
  /-- The prepared statements were dropped after a slow probe. -/
  | recalculation
deriving DecidableEq, Repr

namespace Counter

def all : List Counter := [rescan, recalculation]

def name : Counter → String
  | rescan => "rescan"
  | recalculation => "recalc_prepared_statement"

def ofName? (name : String) : Option Counter :=
  all.find? (·.name == name)

end Counter

namespace Metrics

/-- What measurements an instrument takes. -/
inductive InstrumentKind where
  | histogram
  | counter
deriving DecidableEq, Repr

/-- A named instrument. -/
structure Instrument where
  name : String
  description : String
  unit : Option String
  kind : InstrumentKind
deriving DecidableEq, Repr

def durations : Instrument :=
  ⟨"pgqueue.operation.duration", "Queue database operation duration in milliseconds", some "ms",
    .histogram⟩

def counting : Counter → Instrument
  | .rescan =>
    ⟨"pgqueue.rescan.total", "Times the cached queue timestamps were cleared", none, .counter⟩
  | .recalculation =>
    ⟨"pgqueue.recalc_prepared_statement.total",
      "Times prepared statements were dropped after a slow probe", none, .counter⟩

def instruments : List Instrument :=
  durations :: Counter.all.map counting

/-- A duration in milliseconds as a double: whole seconds and the rest are rounded on their own,
then their sum, then its thousandfold. -/
def durationValue (elapsed : Span) : Binary64 :=
  let rest := (Binary64.ofNat elapsed.subsecond).divNonneg (Binary64.ofNat 1000000000)
  ((Binary64.ofNat elapsed.seconds).addNonneg rest).mulNonneg (Binary64.ofNat 1000)

inductive Value where
  | count (n : Nat)
  | duration (millis : Binary64)
deriving DecidableEq, Repr

structure Measurement where
  instrument : String
  value : Value
  labels : List (String × String)
deriving DecidableEq, Repr

/-- A sink that records adds its own labels to every measurement; another discards all of them. -/
inductive Sink where
  | recording (labels : List (String × String))
  | discarding
deriving Repr

namespace Sink

/-- What a sink measures when a counter is raised. -/
def increment (sink : Sink) (counter : Counter) : List Measurement :=
  match sink with
  | recording labels => [⟨(counting counter).name, .count 1, labels⟩]
  | discarding => []

/-- What a sink measures when an operation has taken some time. -/
def record (sink : Sink) (timer : Timer) (elapsed : Span) : List Measurement :=
  match sink with
  | recording labels =>
    [⟨durations.name, .duration (durationValue elapsed),
      labels ++ [("operation", timer.name)]⟩]
  | discarding => []

end Sink

end Metrics

end TableQueue
