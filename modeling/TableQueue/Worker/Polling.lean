import TableQueue.Worker.Gate

/-!
# Looking for a job

A pass over the queues is one transaction. For each queue in turn the worker makes sure that it has
a lower bound, by a probe if it remembers none, and claims the first eligible row that is not below
it. The claimed row's own eligibility time becomes the bound of its queue. A pass that finds nothing
is rolled back; the worker then rescans once without bounds, and sleeps when that finds nothing
either.
-/

namespace TableQueue.Turn

variable {α : Type} (duties : Duties α) (moment : Moment)

def claim (turn : Turn α) (session : Nat) (cycle : Cycle) (queue : String)
    (rest : List String) (notBefore : Instant) : Turn α :=
  (turn.beginCall moment).goTo
    (.polling session cycle (.claiming queue rest notBefore moment.now))

/-- Goes on to the first of the remaining queues, or gives up the pass. -/
def pollNext (turn : Turn α) (session : Nat) (cycle : Cycle) : List String → Turn α
  | [] => turn.goTo (.polling session cycle .abandoning)
  | queue :: rest =>
    match turn.worker.bound? queue with
    | some bound => turn.claim moment session cycle queue rest bound
    | none =>
      (turn.beginCall moment).goTo (.polling session cycle (.probing queue rest moment.now))

/-- The lower bound of a queue is known. After a slow probe the prepared statements are dropped
before it is remembered. -/
def endProbe (turn : Turn α) (session : Nat) (cycle : Cycle) (queue : String)
    (rest : List String) (begun bound : Instant) : Turn α :=
  let turn := turn.endCall.time moment .timestamp begun
  let elapsed := moment.now.since begun
  if duties.settings.maxQueryTime ≤ elapsed then
    ((turn.log .info "Query took too long, making new prepared statements"
      [("elapsed_ms", .number elapsed.wordMillis)]).note
        (.counted .recalculation)).goTo (.polling session cycle (.replanning queue rest bound))
  else (turn.setBound queue bound).claim moment session cycle queue rest bound

def failProbe (turn : Turn α) (session : Nat) (begun : Instant) (operation : String)
    (error : DatabaseError) : Turn α :=
  (turn.endCall.time moment .timestamp begun).failFetch moment (some session)
    (.database operation error)

def accept (turn : Turn α) (session : Nat) (queue : String) (row : Row) : Turn α :=
  match row.metadata with
  | .error error => turn.failFetch moment (some session) (.database "decode job metadata" error)
  | .ok details =>
    match duties.codec.decode row.job with
    | .error error => turn.failFetch moment (some session) (.database "decode job" error)
    | .ok payload =>
      (turn.setBound queue details.dequeueAfter.instant).goTo
        (.working session ⟨details, payload⟩ .saving)

def endClaim (turn : Turn α) (session : Nat) (cycle : Cycle) (queue : String)
    (rest : List String) (begun : Instant) (answer : Except DatabaseError (Option Row)) :
    Turn α :=
  let turn := turn.endCall.time moment .dequeue begun
  match answer with
  | .error error => turn.failFetch moment (some session) (.database "claim job" error)
  | .ok none => turn.pollNext moment session cycle rest
  | .ok (some row) => turn.accept duties moment session queue row

def endEmptyCycle (turn : Turn α) (session : Nat) (cycle : Cycle) : Turn α :=
  if !cycle.waits then turn.passFailureGate duties moment session true
  else
    let cycle := { cycle with isIdle := true }
    if !cycle.hasCleared then
      { turn with worker := { turn.worker with countdown := 0 } }.beginCycle duties moment session
        cycle
    else if moment.stopped then turn.goTo (.closing session true)
    else
      turn.goTo
        (.asleep session (moment.now.afterSleep duties.settings.emptyQueueSleep).nextTick)

/-- The sleep after an empty pass is over, or has been disturbed. -/
def wake (turn : Turn α) (session : Nat) (wakesAt : Instant) : Turn α :=
  if moment.stopped || decide (wakesAt ≤ moment.now) then
    turn.beginCycle duties moment session ⟨true, true, true⟩
  else turn

/-- The answer at a stage of a pass. -/
def resumePoll (turn : Turn α) (session : Nat) (cycle : Cycle) :
    (stage : PollStage) → (Point.pollCall (α := α) session stage).Answer → Turn α
  | .beginning, .ok () => turn.pollNext moment session cycle duties.settings.queueNames
  | .beginning, .error error =>
    turn.failFetch moment (some session) (.database Command.begin.text error)
  | .probing queue rest begun, .ok (some oldest) =>
    turn.endProbe duties moment session cycle queue rest begun oldest
  | .probing queue rest begun, .ok none =>
    turn.goTo (.polling session cycle (.bounding queue rest begun))
  | .probing _ _ begun, .error error =>
    turn.failProbe moment session begun StatementKind.queueTimestamp.name error
  | .bounding queue rest begun, .ok recent =>
    turn.endProbe duties moment session cycle queue rest begun recent
  | .bounding _ _ begun, .error error =>
    turn.failProbe moment session begun StatementKind.currentTimestamp.name error
  | .replanning queue rest bound, .ok () =>
    (turn.setBound queue bound).claim moment session cycle queue rest bound
  | .replanning .., .error error =>
    turn.failFetch moment (some session) (.database "clear prepared statements" error)
  | .claiming queue rest _ begun, answer =>
    turn.endClaim duties moment session cycle queue rest begun answer
  | .abandoning, .ok () => turn.endEmptyCycle duties moment session cycle
  | .abandoning, .error error =>
    turn.failFetch moment (some session) (.database Command.rollback.text error)

end TableQueue.Turn
