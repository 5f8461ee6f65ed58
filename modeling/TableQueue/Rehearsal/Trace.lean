import TableQueue.Rehearsal.Adversity
import TableQueue.Rehearsal.Script
import TableQueue.Worker.Turn

/-!
# Traces

What is seen of a rehearsal: the steps of its director, the requests that reach the server, the
deliveries, and the notes of the workers, each with the instant at which it happened.
-/

namespace TableQueue.Rehearsal

/-- The steps that a director takes. -/
inductive Step where
  | start
  | stop
  | await (timeout : Span)
  | isRunning
  | workerCount
  | hung
  | hungSince (age : Span)
  | enqueue (draft : Draft)
  /-- Gives the crew up. -/
  | release
  /-- Lets time pass. -/
  | run (span : Span)
deriving DecidableEq, Repr

/-- What a step gives. -/
inductive StepResult where
  | done
  | refused (fault : Fault)
  | truth (b : Bool)
  | count (n : Nat)
  | names (workers : List String)
deriving DecidableEq, Repr

def StepResult.ofExcept {β : Type} : Except Fault β → StepResult
  | .ok _ => done
  | .error fault => refused fault

/-- Who stops a crew other than the director. -/
inductive StopSource where
  | handler
  /-- The number of statements. -/
  | limit
deriving DecidableEq, Repr

/-- Something that happens in a rehearsal. -/
inductive Happening where
  | step (step : Step) (result : Option StepResult)
  | connect (number : Nat) (success : Bool)
  | command (order : Command) (effect : Option Effect)
  | prepared (statement : Statement) (new : Bool) (effect : Option Effect) (aborted : Bool)
  /-- The statements of these names are dropped. -/
  | deallocate (names : List String)
  | noted (note : Note Cells)
  | deliver (job : Job Cells)
  | stopped (source : StopSource) (result : StepResult)

structure Entry where
  moment : Instant
  happening : Happening

end TableQueue.Rehearsal
