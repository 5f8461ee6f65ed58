import TableQueue.Rehearsal.Scene

/-!
# Rehearsals

A director leads a crew through a list of steps. Time is virtual: it moves only when nobody can act,
and then to the next instant at which somebody can. A step that takes time lets the crew act
meanwhile, and everything that falls due before its end is done before the next step. At the instant
at which a step ends the director comes first.
-/

namespace TableQueue.Rehearsal

namespace Scene

variable {setup : Setup}

/-- The number of rounds, and of moves of the clock, that a step is given. -/
def patience : Nat := 10000000

/-- Lets the players act until nobody can. -/
def settle : Nat → Scene setup → Scene setup
  | 0, scene => scene
  | fuel + 1, scene => if scene.isBusy then settle fuel scene.round else scene

def nextDue (scene : Scene setup) : Option Instant :=
  (scene.players.filterMap dueAt).foldl (fun earliest due ↦
    match earliest with
    | none => some due
    | some other => if due < other then some due else some other) none

/-- The next instant before a deadline at which a player can act. -/
def nextBefore (scene : Scene setup) (deadline : Instant) : Option Instant :=
  scene.nextDue.filter fun due ↦ decide (due < deadline)

/-- Moves the clock on to an instant. It never goes back. -/
def passTo (scene : Scene setup) (instant : Instant) : Scene setup :=
  { scene with now := scene.now.after (instant.since scene.now) }

/-- Lets everything happen that is due before a deadline, or until a condition holds. -/
def runUntil (deadline : Instant) (isOver : Scene setup → Bool) :
    Nat → Scene setup → Scene setup
  | 0, scene => scene.passTo deadline
  | fuel + 1, scene =>
    let settled := scene.settle patience
    if isOver settled then settled
    else
      match settled.nextBefore deadline with
      | some due => runUntil deadline isOver fuel (settled.passTo due)
      | none => settled.passTo deadline

/-- Lets time pass. A span of zero is over before anybody acts. -/
def run (scene : Scene setup) (span : Span) : Scene setup :=
  if span = Span.zero then scene
  else runUntil (scene.now.afterSleep span) (fun _ ↦ false) patience scene

def areOver (tasks : List Nat) (scene : Scene setup) : Bool :=
  tasks.all fun task ↦ scene.taskStatus task != .unfinished

/-- Waits for tasks, for a limited time. A time of zero is over before anybody acts. -/
def await (scene : Scene setup) (timeout : Span) : Scene setup × StepResult :=
  match scene.crew.beginAwait with
  | .error fault => (scene, .refused fault)
  | .ok (crew, tasks) =>
    let scene := { scene with crew }
    let scene :=
      if areOver tasks scene || decide (timeout = Span.zero) then scene
      else runUntil (scene.now.afterSleep timeout) (areOver tasks) patience scene
    if areOver tasks scene then
      let (crew, log) := scene.crew.reclaim scene.taskStatus tasks
      ({ scene with crew }.logAll log, .done)
    else (scene.logAll [Crew.timeoutReport timeout], .done)

def start (scene : Scene setup) : Scene setup × StepResult :=
  let (crew, log, result) :=
    scene.crew.start scene.taskStatus setup.duties.settings.queueNames
  let scene := { scene with crew }.logAll log
  match result with
  | .ok tasks => (tasks.foldl spawn scene, .done)
  | .error fault => (scene, .refused fault)

def stop (scene : Scene setup) : Scene setup × StepResult :=
  let (crew, log, result) := scene.crew.stop
  ({ scene with crew }.logAll log, StepResult.ofExcept result)

/-- Takes a step of the director and gives its result, if it has one. -/
def take (scene : Scene setup) : Step → Scene setup × Option StepResult
  | .start => scene.start.map id some
  | .stop => scene.stop.map id some
  | .await timeout => (scene.await timeout).map id some
  | .isRunning => (scene, some (.truth scene.crew.isRunning))
  | .workerCount => (scene, some (.count scene.crew.size))
  | .hung => (scene, some (.names (scene.shared.health.hung scene.now)))
  | .hungSince age => (scene, some (.names (scene.shared.health.hungSince age scene.now)))
  | .enqueue draft =>
    ({ scene with server :=
      { scene.server with store := draft.insertInto scene.server.store scene.now } }, none)
  | .release => ({ scene with crew := scene.crew.release }, none)
  | .run span => (scene.run span, none)

/-- Whether a step is seen in the trace. -/
def isShown : Step → Bool
  | .enqueue _ | .run _ => false
  | _ => true

/-- One step of the director. After the crew has been given up, only time passes. -/
def step (scene : Scene setup) (step : Step) : Scene setup :=
  match scene.crew.isReleased, step with
  | true, .run span => scene.run span
  | true, _ => scene
  | false, step =>
    let (scene, result) := scene.take step
    if isShown step then scene.record (.step step result) else scene

def initial (setup : Setup) (plan : Assembly.Plan) (rows : List Draft) (now : Instant) :
    Scene setup where
  now := now
  server :=
    ⟨rows.foldl (fun store draft ↦ draft.insertInto store now) Store.empty, []⟩
  crew := Crew.ofSize plan.workers
  shared := Shared.ofPlan plan
  players := (List.range plan.workers).map fun number ↦
    ⟨Worker.ofName plan.settings (Crew.workerName number), .fresh⟩
  progress := ⟨0, []⟩
  counts := []
  statements := 0
  entries := []

end Scene

/-- What is left of a rehearsal. -/
structure Report where
  trace : List Entry
  queue : List TableQueue.Entry
  archive : List ArchivedRow
  notes : List String
  connections : List ConnectionState

/-- Plays a rehearsal. The trace ends with the last step; the tables are looked at when the crew has
nothing more to do at that instant. -/
def play (setup : Setup) (plan : Assembly.Plan) (rows : List Draft) (now : Instant)
    (steps : List Step) : Report :=
  let scene := steps.foldl Scene.step (Scene.initial setup plan rows now)
  let settled := scene.settle Scene.patience
  { trace := scene.entries.reverse
    queue := settled.server.store.allEntries
    archive := settled.server.store.allArchived.map Prod.snd
    notes := settled.server.store.allNotes.map Prod.snd
    connections := settled.establishedConnections.map Connection.state }

/-- The codec of a rehearsal: a job is its cells, and some first cells cannot be read. -/
def codec (undecodable : List Cell) : Codec Cells where
  decode cells :=
    if cells.head?.any undecodable.contains then .error (.decode "undecodable job") else .ok cells
  encode := id

def deduplicator (positions : List Nat) (rule : MergeRule) : Deduplicator Cells where
  positions := positions
  values cells := positions.map fun position ↦ (cells[position]?).getD .null
  merge := rule.merge

end TableQueue.Rehearsal
