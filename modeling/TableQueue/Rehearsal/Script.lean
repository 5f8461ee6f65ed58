import TableQueue.Database.Store
import TableQueue.Worker.Point

/-!
# Scripted handlers

In a rehearsal the handler follows a script. What it does with a delivery is found by the number of
the delivery, else by the job, else by default. A performance has a fixed order: rows are enqueued,
texts are written on the worker's own connection, time passes, the crew may be stopped, and the
handler answers.
-/

namespace TableQueue.Rehearsal

/-- A job in a rehearsal is its cells. -/
abbrev Cells := List Cell

/-- A row yet to be inserted, with times relative to its insertion. -/
structure Draft where
  queue : String
  queued : Option Int
  dequeueAfter : Int
  tries : Option Int
  job : Cells
  /-- When its producer commits the row, if not at once. -/
  visibleFrom : Option Int
deriving DecidableEq, Repr

namespace Draft

/-- An instant a number of milliseconds from another. -/
def shift (origin : Instant) (millis : Int) : Instant := ⟨origin.nanos + millis * 1000000⟩

def row (draft : Draft) (now : Instant) : Row where
  queue := draft.queue
  queued := draft.queued.map (shift now)
  dequeueAfter := shift now draft.dequeueAfter
  tries := draft.tries
  job := draft.job

def insertInto (draft : Draft) (store : Store) (now : Instant) : Store :=
  store.produce (draft.row now) ((draft.visibleFrom.map (shift now)).getD now)

end Draft

/-- What a handler does with a delivery. -/
structure Performance where
  enqueued : List Draft
  writes : List String
  ignoresWriteErrors : Bool
  pause : Span
  stops : Bool
  reception : Reception
deriving Repr

/-- The handler that accepts a job and does nothing else. -/
def Performance.plain : Performance := ⟨[], [], false, Span.zero, false, .accepted⟩

/-- A handler's script. -/
structure Script where
  /-- By the number of the delivery, with gaps. -/
  byDelivery : List (Option Performance)
  /-- By the job, for successive deliveries; the last performance is repeated. -/
  byJob : List (String × List Performance)
  fallback : Performance

/-- How far a script has been followed. -/
structure Progress where
  deliveries : Nat
  /-- How often the performance was looked up by each job. -/
  lookups : List (String × Nat)

namespace Script

/-- The text by which a job is looked up: its first cell. -/
def jobKey : Cells → String
  | [] => ""
  | .null :: _ => "null"
  | .text s :: _ | .bytes s :: _ => s
  | .whole n :: _ => toString n
  | .truth true :: _ => "true"
  | .truth false :: _ => "false"

/-- The performance for a successive delivery of a job. -/
def successive (performances : List Performance) (number : Nat) : Option Performance :=
  performances[number]?.or performances.getLast?

def next (script : Script) (progress : Progress) (job : Cells) : Performance × Progress :=
  let number := progress.deliveries
  let progress := { progress with deliveries := number + 1 }
  match script.byDelivery[number]?.join with
  | some performance => (performance, progress)
  | none =>
    let key := jobKey job
    match script.byJob.lookup key with
    | none => (script.fallback, progress)
    | some performances =>
      let count := (progress.lookups.lookup key).getD 0
      ((successive performances count).getD script.fallback,
        { progress with
          lookups := (key, count + 1) :: progress.lookups.filter (·.1 != key) })

end Script

/-! ## Merging -/

/-- The ways in which a rehearsal merges a duplicate into a job. -/
inductive MergeRule where
  | keepJob
  | keepDuplicate
  | panics
  /-- Column by column. -/
  | combine
deriving DecidableEq, Repr

namespace MergeRule

def combineCells : Cell → Cell → Cell
  | .text a, .text b => if a = b then .text a else .text (a ++ "+" ++ b)
  | .whole a, .whole b => .whole (Int.bmod (a + b) 18446744073709551616)
  | .truth a, .truth b => .truth (a || b)
  | cell, _ => cell

def merge (rule : MergeRule) (job duplicate : Cells) : Except String Cells :=
  match rule with
  | keepJob => .ok job
  | keepDuplicate => .ok duplicate
  | panics => .error "merge failed"
  | combine => .ok (job.zipWith combineCells duplicate)

end MergeRule

end TableQueue.Rehearsal
