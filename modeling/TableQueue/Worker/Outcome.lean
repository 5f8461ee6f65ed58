import TableQueue.Worker.Gate

/-!
# Working on a job

A claimed job is delivered under a savepoint, after its duplicates have been taken from the queue
and merged into it. If the handler accepts it, the claiming transaction is committed. Otherwise
everything after the savepoint is undone and the failure is carried out in the same transaction: the
job is put off, or put back, or archived. A job that has used up its attempts is archived whatever
its failure. A statement that fails on the way rolls the whole transaction back and costs the worker
its connection.
-/

namespace TableQueue

/-- What becomes of a job that was not accepted. -/
inductive Disposition where
  | putOff (delay : Span)
  | putBack
  | archive
deriving DecidableEq, Repr

/-- Decides what becomes of a job after a failed attempt. -/
def Settings.disposition (settings : Settings) (details : JobMeta) (failure : JobFailure) :
    Disposition :=
  if settings.maxTries ≤ details.tries then .archive
  else
    match failure with
    | .postponed _ delay => .putOff delay
    | .retryable _ => .putBack
    | .fatal .. => .archive

/-- The delay that is written to the queue, in whole milliseconds. -/
def writtenDelay (delay : Span) : Nat :=
  (delay.min longestPostponement).millis

namespace Turn

variable {α : Type} (duties : Duties α) (moment : Moment)

def failJob (turn : Turn α) (session : Nat) (fault : Fault) : Turn α :=
  (turn.logFault "Rolling back" fault).goTo (.rollingBack session fault)

def endRollback (turn : Turn α) (session : Nat) (fault : Fault)
    (answer : Except DatabaseError Unit) : Turn α :=
  let turn := match answer with
    | .ok () => turn
    | .error error =>
      turn.logFault "Error rolling back" (.database Command.rollback.text error)
  ((turn.registerJob moment false).logFault "Error processing job" fault).goTo
    (.closing session false)

def settle (turn : Turn α) (session : Nat) (success : Bool) : Turn α :=
  (turn.registerJob moment success).passFailureGate duties moment session true

def report (turn : Turn α) (job : Job α) (operation status : String) (details : Option String) :
    Turn α :=
  turn.note (.logged (Log.jobOperation operation turn.worker.name job.details.queue
    job.details.tries status details moment.now))

/-- The outcome of a failed attempt is committed. -/
def settleFailure (turn : Turn α) (session : Nat) (job : Job α) (operation status : String)
    (failure : JobFailure) : Turn α :=
  (turn.report moment job operation status (some failure.diagnosis)).settle duties moment session
    (!failure.throttles)

/-- Whether duplicates of a job are to be looked for at present. -/
def looksForDuplicates (turn : Turn α) : Bool :=
  match duties.deduplicator with
  | some deduplicator =>
    !deduplicator.positions.isEmpty && turn.shared.breaker.closedAt moment.now.millis
  | none => false

def endSave (turn : Turn α) (session : Nat) (job : Job α) : Turn α :=
  if turn.looksForDuplicates duties moment then
    (turn.beginCall moment).goTo (.working session job (.deduplicating moment.now))
  else turn.goTo (.working session job .delivering)

/-- Reports the duration of a lookup to the breaker. -/
def endLookup (turn : Turn α) (begun : Instant) : Turn α :=
  let breaker := turn.shared.breaker
  let started := begun.millis
  let ended := moment.now.millis
  let turn := { turn with shared :=
    { turn.shared with breaker := breaker.finish started ended } }
  if breaker.trips started ended then
    turn.note (.logged ⟨.warn, "🐢 Duplicate lookup too slow - deduplication disabled",
      [("duration_ms", .number (Breaker.duration started ended)),
        ("limit_ms", .number breaker.limit), ("disable_period_ms", .number breaker.period)]⟩)
  else turn

/-- Merges duplicates into a job, one after another, and then delivers it. -/
def mergeAll (deduplicator : Deduplicator α) (turn : Turn α) (session : Nat) (job : Job α) :
    List Row → Turn α
  | [] => turn.goTo (.working session job .delivering)
  | row :: rest =>
    match row.metadata with
    | .error error => turn.failJob session (.database "decode duplicate metadata" error)
    | .ok details =>
      match duties.codec.decode row.job with
      | .error error => turn.failJob session (.database "decode duplicate" error)
      | .ok skipped =>
        let turn := turn.note (.merged job.payload skipped)
        match deduplicator.merge job.payload skipped with
        | .error text => turn.goTo (.crashed session text)
        | .ok payload =>
          (turn.log .info "Skipping duplicate job" [("skipped", .shown details.text)]).mergeAll
            deduplicator session { job with payload } rest

def endDuplicates (turn : Turn α) (session : Nat) (job : Job α) (begun : Instant)
    (answer : Except DatabaseError (List Row)) : Turn α :=
  let turn := (turn.endCall.time moment .deleteDuplicate begun).endLookup moment begun
  match answer, duties.deduplicator with
  | .error error, _ => turn.failJob session (.database "delete duplicates" error)
  | .ok rows, some deduplicator => turn.mergeAll duties deduplicator session job rows
  | .ok _, none => turn.goTo (.working session job .delivering)

def endDelivery (turn : Turn α) (session : Nat) (job : Job α) (reception : Reception) : Turn α :=
  match reception.failure? with
  | none => turn.goTo (.working session job .releasing)
  | some failure => turn.goTo (.working session job (.undoing failure))

def endUndo (turn : Turn α) (session : Nat) (job : Job α) (failure : JobFailure) : Turn α :=
  match duties.settings.disposition job.details failure with
  | .putOff delay =>
    let turn :=
      if longestPostponement < delay then
        turn.log .warn "Postponement capped"
          [("delay_ms", .number delay.wordMillis)]
      else turn
    (turn.beginCall moment).goTo
      (.working session job (.puttingOff failure (writtenDelay delay) moment.now))
  | .putBack =>
    (turn.beginCall moment).goTo (.working session job (.puttingBack failure moment.now))
  | .archive => turn.goTo (.working session job (.committingClaim failure))

/-- An insertion has ended. An insertion that did not affect one row is remarked upon and otherwise
taken as done. -/
def endInsertion (turn : Turn α) (session : Nat) (job : Job α) (timer : Timer) (begun : Instant)
    (operation remark : String) (next : JobStage) (answer : Except DatabaseError Nat) : Turn α :=
  match answer with
  | .error error =>
    (turn.endCall.time moment timer begun).failJob session (.database operation error)
  | .ok rows =>
    let turn := if rows = 1 then turn else turn.log .warn remark [("rows", .number rows)]
    (turn.endCall.time moment timer begun).goTo (.working session job next)

/-- The answer to a command, which either goes on or fails the job. -/
def afterCommand (turn : Turn α) (session : Nat) (order : Command)
    (answer : Except DatabaseError Unit) (next : Turn α → Turn α) : Turn α :=
  match answer with
  | .ok () => next turn
  | .error error => turn.failJob session (.database order.text error)

/-- The answer at a stage of a claimed job. -/
def resumeJob (turn : Turn α) (session : Nat) (job : Job α) :
    (stage : JobStage) → (Point.jobCall duties session job stage).Answer → Turn α
  | .saving, answer =>
    turn.afterCommand session .setSavepoint answer (·.endSave duties moment session job)
  | .deduplicating begun, answer => turn.endDuplicates duties moment session job begun answer
  | .delivering, reception => turn.endDelivery session job reception
  | .releasing, answer =>
    turn.afterCommand session .releaseSavepoint answer
      (·.goTo (.working session job .committingSuccess))
  | .committingSuccess, answer =>
    turn.afterCommand session .commit answer fun turn ↦
      (turn.report moment job "accept" "success" none).settle duties moment session true
  | .undoing failure, answer =>
    turn.afterCommand session .rollbackToSavepoint answer
      (·.endUndo duties moment session job failure)
  | .puttingOff failure _ begun, answer =>
    turn.endInsertion moment session job .postpone begun "postpone job"
      "Strange: postponing job, modified rows" (.committingPutOff failure) answer
  | .committingPutOff failure, answer =>
    turn.afterCommand session .commit answer
      (·.settleFailure duties moment session job "postpone" "postponed" failure)
  | .puttingBack failure begun, answer =>
    turn.endInsertion moment session job .retry begun "retry job"
      "Strange: retrying job, modified rows" (.committingPutBack failure) answer
  | .committingPutBack failure, answer =>
    turn.afterCommand session .commit answer
      (·.settleFailure duties moment session job "retry" "retried" failure)
  | .committingClaim failure, answer =>
    turn.afterCommand session .commit answer
      (·.goTo (.working session job (.beginningArchive failure)))
  | .beginningArchive failure, answer =>
    turn.afterCommand session .begin answer fun turn ↦
      (turn.beginCall moment).goTo (.working session job (.archiving failure moment.now))
  | .archiving failure begun, answer =>
    turn.endInsertion moment session job .failure begun "archive job"
      "Strange: writing diag job, modified rows" (.committingArchive failure) answer
  | .committingArchive failure, answer =>
    turn.afterCommand session .commit answer
      (·.settleFailure duties moment session job "fail" "failed" failure)

end Turn

end TableQueue
