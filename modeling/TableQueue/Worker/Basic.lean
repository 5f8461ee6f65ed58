import TableQueue.Worker.Outcome
import TableQueue.Worker.Polling

/-!
# Workers

A worker waits at a point for the answer to its call; given the answer, it takes a turn, which
brings it to the next point. The rest of the library drives workers only through `Worker.resume`.
-/

namespace TableQueue

namespace Turn

variable {α : Type} (duties : Duties α) (moment : Moment)

def resume (turn : Turn α) : (point : Point α) → (point.call duties).Answer → Turn α
  | .idle, _ | .crashed .., _ => turn
  | .starting, _ => (turn.log .info "🚀 Queue worker started" []).passConnectGate moment
  | .atConnectGate _, _ => turn.passConnectGate moment
  | .connecting begun, answer => turn.endConnect duties moment begun answer
  | .atFailureGate session waits _, _ => turn.passFailureGate duties moment session waits
  | .asleep session wakesAt, _ => turn.wake duties moment session wakesAt
  | .polling session cycle stage, answer =>
    turn.resumePoll duties moment session cycle stage answer
  | .working session job stage, answer => turn.resumeJob duties moment session job stage answer
  | .rollingBack session fault, answer => turn.endRollback moment session fault answer
  | .closing _ last, answer => turn.endClose moment last answer

end Turn

namespace Worker

variable {α : Type}

def call (duties : Duties α) (worker : Worker α) : Call α :=
  worker.point.call duties

def resume (duties : Duties α) (moment : Moment) (shared : Shared) (worker : Worker α)
    (answer : (worker.call duties).Answer) : Turn α :=
  Turn.resume duties moment ⟨shared, worker, []⟩ worker.point answer

def isDue (shared : Shared) (moment : Moment) (worker : Worker α) : Bool :=
  match worker.point with
  | .starting => true
  | .atConnectGate sleeper =>
    moment.stopped || shared.connectThrottle.rouses sleeper moment.now
  | .atFailureGate _ _ sleeper =>
    moment.stopped || shared.failureThrottle.rouses sleeper moment.now
  | .asleep _ wakesAt => moment.stopped || decide (wakesAt ≤ moment.now)
  | _ => false

/-- The instant at which a worker that waits for time to pass has waited long enough, if nothing
happens before. -/
def wakesAt? (worker : Worker α) : Option Instant :=
  match worker.point with
  | .atConnectGate sleeper | .atFailureGate _ _ sleeper => some sleeper.wakesAt
  | .asleep _ wakesAt => some wakesAt
  | _ => none

end Worker

end TableQueue
