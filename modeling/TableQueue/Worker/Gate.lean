import TableQueue.Worker.Turn

/-!
# Between jobs

A worker passes the connect throttle before it connects and the failure throttle before it looks for
a job. A worker that is told to stop leaves at the next of these points, closes its connection and
ends its run.
-/

namespace TableQueue.Turn

variable {α : Type} (duties : Duties α) (moment : Moment)

def finish (turn : Turn α) : Turn α :=
  (turn.log .info "🛑 Queue worker stopped" []).goTo .idle

/-- Begins a pass over the queues. Every so many passes the bounds are cleared. -/
def beginCycle (turn : Turn α) (session : Nat) (cycle : Cycle) : Turn α :=
  if moment.stopped then turn.goTo (.closing session true)
  else
    let countdown := turn.worker.countdown - 1
    if countdown ≤ 0 then
      let worker := { turn.worker with countdown := cycle.reload duties.settings, bounds := [] }
      ({ turn with worker }.note (.counted .rescan)).goTo
        (.polling session { cycle with hasCleared := true } .beginning)
    else
      { turn with worker := { turn.worker with countdown } }.goTo
        (.polling session cycle .beginning)

/-- Passes the failure throttle, or waits at it. -/
def passFailureGate (turn : Turn α) (session : Nat) (waits : Bool) : Turn α :=
  if moment.stopped then turn.goTo (.closing session true)
  else
    match turn.shared.failureThrottle.consult moment.now with
    | some sleeper => turn.goTo (.atFailureGate session waits sleeper)
    | none => turn.beginCycle duties moment session (Cycle.first waits)

/-- Passes the connect throttle and connects, or waits at it. -/
def passConnectGate (turn : Turn α) : Turn α :=
  if moment.stopped then turn.finish
  else
    match turn.shared.connectThrottle.consult moment.now with
    | some sleeper => turn.goTo (.atConnectGate sleeper)
    | none => (turn.beginCall moment).goTo (.connecting moment.now)

/-- The search for a job has met a fault: the connection, if there is one, is replaced. The fault
counts against the connect throttle, which the connection itself may have cleared. -/
def failFetch (turn : Turn α) (session : Option Nat) (fault : Fault) : Turn α :=
  let turn := (turn.logFault "Error fetching job from queue" fault).registerConnect moment false
  match session with
  | some session => turn.goTo (.closing session false)
  | none => turn.passConnectGate moment

def endConnect (turn : Turn α) (begun : Instant) (answer : Except DatabaseError Nat) : Turn α :=
  let turn := (turn.endCall.time moment .databaseConnect begun).registerConnect moment
    answer.isOk
  match answer with
  | .ok session =>
    { turn with worker := { turn.worker with bounds := [] } }.passFailureGate duties moment
      session false
  | .error error => turn.failFetch moment none (.database "connect" error)

def endClose (turn : Turn α) (last : Bool) (answer : Except DatabaseError Unit) : Turn α :=
  let turn := match answer with
    | .ok () => turn
    | .error error => turn.note (.logged
        ⟨.warn, "Error closing connection", [("error", .shown error.message)]⟩)
  if last then turn.finish else turn.passConnectGate moment

end TableQueue.Turn
