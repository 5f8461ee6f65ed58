import TableQueue.Job.Failure
import TableQueue.Statement.Basic
import TableQueue.Worker.Duties

/-!
# The points at which a worker waits

Between two points a worker computes without interruption. At a point it either waits for time to
pass or waits for the answer to one call. The point holds all that the worker remembers of its
present round, so that a point and an answer determine what comes next. Whether the worker is
connected is also part of the point: every point past connecting names the session.
-/

namespace TableQueue

/-- How a handler meets a job. -/
inductive Reception where
  | accepted
  | rejected (failure : JobFailure)
  /-- The handler has died, possibly with a text. -/
  | died (text : Option String)
deriving DecidableEq, Repr

namespace Reception

/-- A handler that dies leaves the job to another attempt. -/
def failure? : Reception → Option JobFailure
  | accepted => none
  | rejected failure => some failure
  | died (some text) => some (.retryable ["panic: " ++ text])
  | died none => some (.retryable ["panic"])

end Reception

inductive Call (α : Type) where
  /-- Time has to pass, or the crew has to stop. -/
  | pause
  | connect
  | execute (session : Nat) (statement : Statement)
  /-- Drops the statements prepared on the connection. -/
  | deallocate (session : Nat)
  | deliver (session : Nat) (job : Job α)
  | close (session : Nat)

namespace Call

/-- The answer to a call. A connection is answered with its session. -/
@[reducible]
def Answer {α : Type} : Call α → Type
  | .pause => Unit
  | .connect => Except DatabaseError Nat
  | .execute _ statement => Except DatabaseError statement.Reply
  | .deallocate _ => Except DatabaseError Unit
  | .deliver .. => Reception
  | .close _ => Except DatabaseError Unit

end Call

/-- One pass over the queues in search of a job. -/
structure Cycle where
  /-- Whether the worker keeps looking after an empty pass. -/
  waits : Bool
  /-- Whether the remembered bounds have been cleared in this search. -/
  hasCleared : Bool
  /-- Whether an earlier pass of this search was empty. -/
  isIdle : Bool
deriving DecidableEq, Repr

namespace Cycle

def first (waits : Bool) : Cycle := ⟨waits, false, false⟩

/-- The number of passes from one rescan to the next. -/
def reload (cycle : Cycle) (settings : Settings) : Nat :=
  if cycle.isIdle then settings.idleRescanEvery else settings.rescanEvery

end Cycle

/-- The stages of a pass. Where a queue is named, `rest` are the queues after it, and `begun` is the
instant at which the measured operation began. -/
inductive PollStage where
  | beginning
  | probing (queue : String) (rest : List String) (begun : Instant)
  /-- The probe found no row, and the present is asked for instead. -/
  | bounding (queue : String) (rest : List String) (begun : Instant)
  /-- The probe was slow, and the prepared statements are dropped. -/
  | replanning (queue : String) (rest : List String) (bound : Instant)
  | claiming (queue : String) (rest : List String) (notBefore begun : Instant)
  /-- No queue had a job. -/
  | abandoning
deriving DecidableEq, Repr

/-- The stages of a claimed job. -/
inductive JobStage where
  | saving
  | deduplicating (begun : Instant)
  | delivering
  | releasing
  | committingSuccess
  | undoing (failure : JobFailure)
  | puttingOff (failure : JobFailure) (delayMillis : Nat) (begun : Instant)
  | committingPutOff (failure : JobFailure)
  | puttingBack (failure : JobFailure) (begun : Instant)
  | committingPutBack (failure : JobFailure)
  /-- The claim is committed before the job is archived, so that a failing archive does not bring
  the job back. -/
  | committingClaim (failure : JobFailure)
  | beginningArchive (failure : JobFailure)
  | archiving (failure : JobFailure) (begun : Instant)
  | committingArchive (failure : JobFailure)
deriving DecidableEq, Repr

inductive Point (α : Type) where
  /-- Not running. -/
  | idle
  /-- About to run. -/
  | starting
  | atConnectGate (sleeper : Throttle.Sleeper)
  | connecting (begun : Instant)
  | atFailureGate (session : Nat) (waits : Bool) (sleeper : Throttle.Sleeper)
  /-- Asleep after a rescan found nothing. -/
  | asleep (session : Nat) (wakesAt : Instant)
  | polling (session : Nat) (cycle : Cycle) (stage : PollStage)
  | working (session : Nat) (job : Job α) (stage : JobStage)
  /-- The transaction of a job has failed and is rolled back. -/
  | rollingBack (session : Nat) (fault : Fault)
  /-- The connection is closed, either for good or to be replaced. -/
  | closing (session : Nat) (last : Bool)
  /-- Died while merging jobs. -/
  | crashed (session : Nat) (text : String)

namespace Point

variable {α : Type}

/-- The statement that a stage of a pass waits for, or nothing while statements are dropped. -/
def pollCall (session : Nat) : PollStage → Call α
  | .beginning => .execute session (.command .begin)
  | .probing queue _ _ => .execute session (.oldest queue)
  | .bounding .. => .execute session .recent
  | .replanning .. => .deallocate session
  | .claiming queue _ notBefore _ => .execute session (.claim queue notBefore)
  | .abandoning => .execute session (.command .rollback)

/-- The cells that duplicates of a job hold. -/
def duplicateKey (duties : Duties α) (job : Job α) : List (Nat × Cell) :=
  match duties.deduplicator with
  | some deduplicator => deduplicator.key job.payload
  | none => []

def jobCall (duties : Duties α) (session : Nat) (job : Job α) : JobStage → Call α
  | .saving => .execute session (.command .setSavepoint)
  | .deduplicating _ =>
    .execute session (.takeDuplicates job.details.queue (duplicateKey duties job)
      duties.settings.includePostponedDuplicates)
  | .delivering => .deliver session job
  | .releasing => .execute session (.command .releaseSavepoint)
  | .undoing _ => .execute session (.command .rollbackToSavepoint)
  | .puttingOff _ delayMillis _ =>
    .execute session (.putOff job.details.queue job.details.queued.instant delayMillis
      job.details.tries (duties.codec.encode job.payload))
  | .puttingBack .. =>
    .execute session (.putBack job.details.queue job.details.queued.instant
      job.details.dequeueAfter.instant job.details.tries (duties.codec.encode job.payload))
  | .beginningArchive _ => .execute session (.command .begin)
  | .archiving failure _ =>
    .execute session (.archive job.details.queue job.details.queued.instant failure.diagnosis
      (duties.codec.encode job.payload))
  | .committingSuccess | .committingPutOff _ | .committingPutBack _ | .committingClaim _
  | .committingArchive _ => .execute session (.command .commit)

/-- What a worker waits for at a point. -/
def call (duties : Duties α) : Point α → Call α
  | idle | starting | atConnectGate _ | atFailureGate .. | asleep .. | crashed .. => .pause
  | connecting _ => .connect
  | polling session _ stage => pollCall session stage
  | working session job stage => jobCall duties session job stage
  | rollingBack session _ => .execute session (.command .rollback)
  | closing session _ => .close session

def isOver : Point α → Bool
  | idle | crashed .. => true
  | _ => false

def session? : Point α → Option Nat
  | atFailureGate session _ _ | asleep session _ | polling session _ _ | working session _ _
  | rollingBack session _ | closing session _ | crashed session _ => some session
  | idle | starting | atConnectGate _ | connecting _ => none

end Point

end TableQueue
