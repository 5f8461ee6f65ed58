import TableQueue.Worker.Basic
import TableQueue.Text.Quoted

/-!
# Crews

A crew starts and stops its workers together. A worker that is not running is idle. Starting turns
every idle worker into a task; the crew keeps track of its tasks until it takes the worker of a
finished one back. Waiting for the tasks gives up after a while, and then the crew forgets them,
finished or not.
-/

namespace TableQueue

/-- How the task of a worker stands. -/
inductive TaskStatus where
  | unfinished
  | finished
  | crashed (text : String)
deriving DecidableEq, Repr

def Worker.taskStatus {α : Type} (worker : Worker α) : TaskStatus :=
  match worker.point with
  | .idle => .finished
  | .crashed _ text => .crashed text
  | _ => .unfinished

/-- A crew. Its workers go by their numbers. -/
structure Crew where
  isRunning : Bool
  /-- Whether the crew has been given up; its workers then stop as soon as they can. -/
  isReleased : Bool
  idle : List Nat
  /-- The tasks that the crew keeps track of. -/
  tasks : List Nat
deriving DecidableEq, Repr

namespace Crew

/-- A crew that has not been started. -/
def ofSize (workers : Nat) : Crew := ⟨false, false, List.range workers, []⟩

def workerName (number : Nat) : String := "pgqueue-worker-" ++ toString number

def size (crew : Crew) : Nat := crew.idle.length + crew.tasks.length

def isStopped (crew : Crew) : Bool := !crew.isRunning || crew.isReleased

def crashReport (text : String) : Log.Event :=
  ⟨.error, "Queue worker ended abnormally",
    [("error", .shown ("task N panicked with message " ++ Text.quoted text))]⟩

/-- Takes the workers of finished tasks back. A crashed worker is lost. -/
def reclaim (crew : Crew) (status : Nat → TaskStatus) : List Nat → Crew × List Log.Event
  | [] => (crew, [])
  | task :: rest =>
    match status task with
    | .crashed text =>
      let (crew, log) := crew.reclaim status rest
      (crew, crashReport text :: log)
    | _ => { crew with idle := crew.idle ++ [task] }.reclaim status rest

/-- Starts every idle worker and says which they are. Refused while the crew is running or a task is
unfinished. -/
def start (crew : Crew) (status : Nat → TaskStatus) (queueNames : List String) :
    Crew × List Log.Event × Except Fault (List Nat) :=
  if crew.isRunning then (crew, [], .error .alreadyRunning)
  else if crew.tasks.any fun task ↦ status task == .unfinished then
    (crew, [], .error .notStopped)
  else
    let (reclaimed, log) := { crew with tasks := [] }.reclaim status crew.tasks
    let started : Log.Event := ⟨.info, "🚀 Harvester started",
      [("workers", .number reclaimed.idle.length), ("queues", .shown (Text.quotedList queueNames))]⟩
    ({ reclaimed with isRunning := true, idle := [], tasks := reclaimed.idle },
      log ++ [started], .ok reclaimed.idle)

def stop (crew : Crew) : Crew × List Log.Event × Except Fault Unit :=
  if crew.isRunning then
    ({ crew with isRunning := false }, [⟨.info, "🛑 Harvester stopping", []⟩], .ok ())
  else (crew, [], .error .notRunning)

/-- Begins to wait for the tasks, of which the crew loses track meanwhile. Refused while the crew is
running. -/
def beginAwait (crew : Crew) : Except Fault (Crew × List Nat) :=
  if crew.isRunning then .error .notStopped else .ok ({ crew with tasks := [] }, crew.tasks)

def timeoutReport (timeout : Span) : Log.Event :=
  ⟨.error, "Error waiting for queue workers to finish: timed out",
    [("timeout_ms", .number timeout.wordMillis)]⟩

def release (crew : Crew) : Crew := { crew with isReleased := true }

end Crew

end TableQueue
