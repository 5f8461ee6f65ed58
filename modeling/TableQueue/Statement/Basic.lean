import TableQueue.Database.Row
import TableQueue.Statement.Kind

/-!
# Statements as data

What a worker, or a handler inside a delivery, asks of the database. A statement carries its
parameters; the type of its reply depends on it. The order of the parameters is that of the
placeholders in its text.
-/

namespace TableQueue

/-- The commands that delimit transactions. -/
inductive Command where
  | begin
  | commit
  | rollback
  | setSavepoint
  | releaseSavepoint
  | rollbackToSavepoint
deriving DecidableEq, Repr

namespace Command

/-- The name of the savepoint around a delivery. -/
def savepointName : String := "pgqueue_job"

def text : Command → String
  | begin => "BEGIN"
  | commit => "COMMIT"
  | rollback => "ROLLBACK"
  | setSavepoint => "SAVEPOINT " ++ savepointName
  | releaseSavepoint => "RELEASE SAVEPOINT " ++ savepointName
  | rollbackToSavepoint => "ROLLBACK TO SAVEPOINT " ++ savepointName

end Command

inductive Statement where
  | command (order : Command)
  /-- The least eligibility time among the eligible rows of a queue. -/
  | oldest (queue : String)
  /-- A moment shortly before the present. -/
  | recent
  /-- Takes the first eligible row of a queue at or above a lower bound. -/
  | claim (queue : String) (notBefore : Instant)
  /-- Takes every row of a queue whose cells at some positions equal given values. -/
  | takeDuplicates (queue : String) (values : List (Nat × Cell)) (includePostponed : Bool)
  /-- Inserts a row with its old place in the queue. -/
  | putBack (queue : String) (queued dequeueAfter : Instant) (tries : Int) (job : List Cell)
  /-- Inserts a row that becomes eligible some milliseconds from the present. -/
  | putOff (queue : String) (queued : Instant) (delayMillis : Nat) (tries : Int)
      (job : List Cell)
  | archive (queue : String) (queued : Instant) (diagnosis : String) (job : List Cell)
  /-- A write of the handler's own. -/
  | note (text : String)
deriving DecidableEq, Repr

namespace Statement

/-- The reply to a statement that succeeds. Insertions say how many rows they affected. -/
@[reducible]
def Reply : Statement → Type
  | .command _ => Unit
  | .oldest _ => Option Instant
  | .recent => Instant
  | .claim .. => Option Row
  | .takeDuplicates .. => List Row
  | .putBack .. | .putOff .. | .archive .. | .note _ => Nat

/-- What a prepared statement is for. -/
inductive Purpose where
  | queue (kind : StatementKind)
  | handler
deriving DecidableEq, Repr

def Purpose.name : Purpose → String
  | queue kind => kind.name
  | handler => "audit"

/-- The purpose of a prepared statement; commands are not prepared. -/
def purpose? : Statement → Option Purpose
  | .command _ => none
  | .oldest _ => some (.queue .queueTimestamp)
  | .recent => some (.queue .currentTimestamp)
  | .claim .. => some (.queue .claim)
  | .takeDuplicates .. => some (.queue .deleteDuplicate)
  | .putBack .. => some (.queue .retry)
  | .putOff .. => some (.queue .postpone)
  | .archive .. => some (.queue .failed)
  | .note _ => some .handler

def name : Statement → String
  | .command order => order.text
  | statement => (statement.purpose?.map Purpose.name).getD ""

inductive Argument where
  | text (s : String)
  | instant (moment : Instant)
  | number (n : Int)
  | cell (value : Cell)
deriving DecidableEq, Repr

/-- The parameters of a statement, in the order of their placeholders. -/
def arguments : Statement → List Argument
  | .command _ | .recent => []
  | .oldest queue => [.text queue]
  | .claim queue notBefore => [.text queue, .instant notBefore]
  | .takeDuplicates queue values _ => .text queue :: values.map fun pair ↦ .cell pair.2
  | .putBack queue queued dequeueAfter tries job =>
    [.text queue, .instant queued, .instant dequeueAfter, .number tries] ++ job.map .cell
  | .putOff queue queued delayMillis tries job =>
    [.text queue, .instant queued, .number delayMillis, .number tries] ++ job.map .cell
  | .archive queue queued diagnosis job =>
    [.text queue, .instant queued, .text diagnosis] ++ job.map .cell
  | .note text => [.text text]

end Statement

end TableQueue
