import TableQueue.Crew
import TableQueue.Rehearsal.Adversity
import TableQueue.Rehearsal.Trace

/-!
# The state of a rehearsal

The scene holds the server, the crew and its workers, the time, and the trace so far. A worker's
call is made at one instant and answered at a later one: the server carries out a statement as soon
as it arrives, and the answer takes its time.
-/

namespace TableQueue.Rehearsal

/-- What a rehearsal is made from. -/
structure Setup where
  duties : Duties Cells
  script : Script
  adversity : Adversity

/-- A handler in the middle of a performance. -/
structure Act where
  performance : Performance
  /-- The texts that remain to be written. -/
  writes : List String
  /-- The error that the last write met. -/
  error : Option DatabaseError

/-- How the call of a worker stands. -/
inductive Standing (call : Call Cells) where
  /-- Not made yet. -/
  | fresh
  | answered (due : Instant) (answer : call.Answer)
  /-- A handler is at work until an instant. -/
  | acting (due : Instant) (act : Act)
  /-- A handler is done with everything but its answer. -/
  | pausing (due : Instant) (act : Act)

/-- A worker with its call. -/
structure Player (duties : Duties Cells) where
  worker : Worker Cells
  standing : Standing (worker.call duties)

/-- The state of a rehearsal. -/
structure Scene (setup : Setup) where
  now : Instant
  server : Server
  crew : Crew
  shared : Shared
  players : List (Player setup.duties)
  progress : Progress
  /-- The number of statements of each kind, and of connects, so far. -/
  counts : List (String × Nat)
  /-- The number of statements so far. -/
  statements : Nat
  /-- The trace, latest entry first. -/
  entries : List Entry

namespace Scene

variable {setup : Setup}

def moment (scene : Scene setup) : Moment := ⟨scene.now, scene.crew.isStopped⟩

def record (scene : Scene setup) (happening : Happening) : Scene setup :=
  { scene with entries := ⟨scene.now, happening⟩ :: scene.entries }

def recordAll (scene : Scene setup) (happenings : List Happening) : Scene setup :=
  happenings.foldl record scene

def logAll (scene : Scene setup) (events : List Log.Event) : Scene setup :=
  scene.recordAll (events.map fun event ↦ .noted (.logged event))

/-- Counts a statement or a connect of a kind, and says how many there have been. -/
def count (scene : Scene setup) (kind : String) : Scene setup × Nat :=
  let number := (scene.counts.lookup kind).getD 0 + 1
  ({ scene with counts := (kind, number) :: scene.counts.filter (·.1 != kind) }, number)

/-- Stops the crew from within, unless it has been given up. -/
def stopFrom (scene : Scene setup) (source : StopSource) : Scene setup :=
  if scene.crew.isReleased then scene
  else
    let (crew, log, result) := scene.crew.stop
    ({ scene with crew }.logAll log).record (.stopped source (StepResult.ofExcept result))

/-- Notes the arrival of a statement and stops the crew if it is the last one admitted. -/
def arrive (scene : Scene setup) (happening : Happening) : Scene setup :=
  let scene := { scene.record happening with statements := scene.statements + 1 }
  if scene.statements = setup.adversity.limit then scene.stopFrom .limit else scene

/-- A statement is sent. It is carried out at once; the answer is due later. On a connection that is
gone it fails without reaching the server. -/
def send (scene : Scene setup) (session : Nat) (statement : Statement) :
    Scene setup × Instant × Except DatabaseError statement.Reply :=
  if !scene.server.isLive session then (scene, scene.now, .error Server.goneError)
  else
    let kind := statement.name
    let (scene, number) := scene.count kind
    let plot := setup.adversity.plot? kind number
    let aborted := scene.server.store.hasFailed session
    let (server, new) := scene.server.prepare session statement
    let (server, answer) :=
      server.serve session scene.now (plot.map Adversity.mishap) statement
    let effect := plot.map Plot.effect
    let happening : Happening :=
      match statement with
      | .command order => .command order effect
      | statement => .prepared statement new effect (aborted && effect.isNone)
    ({ scene with server }.arrive happening, scene.now.afterSleep (setup.adversity.delay kind),
      answer)

def connect (scene : Scene setup) : Scene setup × Instant × Except DatabaseError Nat :=
  let (scene, number) := scene.count Adversity.connecting
  let due := scene.now.afterSleep (setup.adversity.delay Adversity.connecting)
  match setup.adversity.plot? Adversity.connecting number with
  | some plot =>
    (scene.record (.connect number false), due, .error (Adversity.connectError plot))
  | none =>
    let (server, session) := scene.server.connect
    ({ scene with server }.record (.connect number true), due, .ok session)

def deallocate (scene : Scene setup) (session : Nat) :
    Scene setup × Except DatabaseError Unit :=
  if !scene.server.isLive session then (scene, .error Server.goneError)
  else
    let (server, purposes) := scene.server.deallocate session
    let names := (purposes.map Statement.Purpose.name).mergeSort fun a b ↦ !decide (b < a)
    ({ scene with server }.record (.deallocate names), .ok ())

/-- The handler goes on to its next write, or to its pause after the last one. -/
def continueAct {call : Call Cells} (scene : Scene setup) (session : Nat) (act : Act) :
    Scene setup × Standing call :=
  match act.writes with
  | [] => (scene, .pausing (scene.now.afterSleep act.performance.pause) act)
  | text :: rest =>
    let (scene, due, answer) := scene.send session (.note text)
    let error := match answer with
      | .ok _ => none
      | .error error => some error
    (scene, .acting due { act with writes := rest, error })

def deliver {call : Call Cells} (scene : Scene setup) (session : Nat) (job : Job Cells) :
    Scene setup × Standing call :=
  let scene := scene.record (.deliver job)
  let (performance, progress) := setup.script.next scene.progress job.payload
  let store := performance.enqueued.foldl (fun store draft ↦ draft.insertInto store scene.now)
    scene.server.store
  { scene with progress, server := { scene.server with store } }.continueAct session
    ⟨performance, performance.writes, none⟩

/-- The failure of a handler that could not write. -/
def writeFailure (error : DatabaseError) : JobFailure :=
  .fatal (error.message :: error.causes) true

/-- Makes a call, or goes on with it. -/
def advance (scene : Scene setup) : (call : Call Cells) → Standing call →
    Scene setup × Standing call
  | .pause, standing => (scene, standing)
  | .connect, .fresh =>
    let (scene, due, answer) := scene.connect
    (scene, .answered due answer)
  | .execute session statement, .fresh =>
    let (scene, due, answer) := scene.send session statement
    (scene, .answered due answer)
  | .deallocate session, .fresh =>
    let (scene, answer) := scene.deallocate session
    (scene, .answered scene.now answer)
  | .close session, .fresh =>
    let (server, answer) := scene.server.close session
    ({ scene with server }, .answered scene.now answer)
  | .deliver session job, .fresh => scene.deliver session job
  | .deliver session _, .acting _ act =>
    match act.error, act.performance.ignoresWriteErrors with
    | some error, false => (scene, .answered scene.now (.rejected (writeFailure error)))
    | _, _ => scene.continueAct session act
  | .deliver _ _, .pausing _ act =>
    let scene := if act.performance.stops then scene.stopFrom .handler else scene
    (scene, .answered scene.now act.performance.reception)
  | _, standing => (scene, standing)

/-! ## Players -/

/-- When a player can act, if nothing happens before. -/
def dueAt (player : Player setup.duties) : Option Instant :=
  match player.standing with
  | .fresh => player.worker.wakesAt?
  | .answered due _ | .acting due _ | .pausing due _ => some due

/-- Whether a player waits for time to pass and not for an answer. -/
def isPausing (player : Player setup.duties) : Bool :=
  match player.worker.call setup.duties with
  | .pause => true
  | _ => false

def canAct (scene : Scene setup) (player : Player setup.duties) : Bool :=
  if isPausing player then player.worker.isDue scene.shared scene.moment
  else
    match player.standing with
    | .fresh => true
    | .answered due _ | .acting due _ | .pausing due _ => decide (due ≤ scene.now)

def answer? (now : Instant) : (call : Call Cells) → Standing call → Option call.Answer
  | .pause, _ => some ()
  | _, .answered due answer => if due ≤ now then some answer else none
  | _, _ => none

/-- A player acts. -/
def act (scene : Scene setup) (player : Player setup.duties) :
    Scene setup × Player setup.duties :=
  match answer? scene.now (player.worker.call setup.duties) player.standing with
  | some answer =>
    let turn := player.worker.resume setup.duties scene.moment scene.shared answer
    let scene := { scene with shared := turn.shared }.recordAll (turn.notes.map .noted)
    let scene := match turn.worker.point with
      | .crashed session _ =>
        { scene with server := scene.server.disconnect session .lost }
      | _ => scene
    (scene, ⟨turn.worker, .fresh⟩)
  | none =>
    let (scene, standing) :=
      scene.advance (player.worker.call setup.duties) player.standing
    (scene, ⟨player.worker, standing⟩)

/-- The session of a connect that has succeeded but is not answered yet. -/
def comingSession? : (call : Call Cells) → Standing call → Option Nat
  | .connect, .answered _ (.ok session) => some session
  | _, _ => none

/-- The connections that have been handed to a worker. -/
def establishedConnections (scene : Scene setup) : List Connection :=
  let coming := scene.players.filterMap fun player ↦
    comingSession? (player.worker.call setup.duties) player.standing
  scene.server.connections.filter fun connection ↦ !coming.contains connection.session

/-- Lets a player act if it can. -/
def actAt (scene : Scene setup) (number : Nat) : Scene setup :=
  match scene.players[number]? with
  | none => scene
  | some player =>
    if scene.canAct player then
      let (scene, player) := scene.act player
      { scene with players := scene.players.set number player }
    else scene

def isBusy (scene : Scene setup) : Bool :=
  scene.players.any scene.canAct

/-- One round in which every player that can act does so once. -/
def round (scene : Scene setup) : Scene setup :=
  (List.range scene.players.length).foldl actAt scene

def taskStatus (scene : Scene setup) (number : Nat) : TaskStatus :=
  match scene.players[number]? with
  | some player => player.worker.taskStatus
  | none => .finished

def spawn (scene : Scene setup) (number : Nat) : Scene setup :=
  match scene.players[number]? with
  | some player =>
    { scene with players :=
      scene.players.set number ⟨{ player.worker with point := .starting }, .fresh⟩ }
  | none => scene

end Scene

end TableQueue.Rehearsal
