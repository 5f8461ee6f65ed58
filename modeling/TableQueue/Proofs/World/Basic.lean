import TableQueue.Crew
import TableQueue.Database.Server

/-!
# Crews at work

A world is a crew with its workers, the server that they share, and the time. It changes by moves,
and whoever picks the moves decides everything that the library leaves open: the order in which
workers go on, how long anything takes, what befalls a statement, how a handler receives a job, what
producers enqueue and when the crew is started, stopped or waited for. What a move does is left to
the server, the workers and the crew. A move that is not possible changes nothing.
-/

namespace TableQueue

variable {α : Type}

/-- What decides how a call is answered, besides the state of the server. -/
structure Chance where
  /-- What befalls a statement. -/
  mishap : Option Mishap
  /-- The error of a connect that fails. -/
  refusal : Option DatabaseError
  /-- How the handler receives a job. -/
  reception : Reception

/-- Nothing befalls a statement, a connect succeeds and a job is accepted. -/
def Chance.plain : Chance := ⟨none, none, .accepted⟩

namespace Server

/-- A statement is sent on a connection. If the connection is gone it does not reach the server. -/
def exchange (server : Server) (session : Nat) (now : Instant) (mishap : Option Mishap)
    (statement : Statement) : Server × Except DatabaseError statement.Reply :=
  if server.isLive session then
    (server.prepare session statement).1.serve session now mishap statement
  else (server, .error goneError)

def answer (server : Server) (now : Instant) (chance : Chance) :
    (call : Call α) → Server × Option call.Answer
  | .pause => (server, none)
  | .connect =>
    match chance.refusal with
    | some error => (server, some (.error error))
    | none => (server.connect.1, some (.ok server.connect.2))
  | .execute session statement =>
    let (server, answer) := server.exchange session now chance.mishap statement
    (server, some answer)
  | .deallocate session =>
    if server.isLive session then ((server.deallocate session).1, some (.ok ()))
    else (server, some (.error goneError))
  | .deliver .. => (server, some chance.reception)
  | .close session => ((server.close session).1, some (server.close session).2)

/-- The connection of a worker that has died is lost. -/
def bury (server : Server) : Point α → Server
  | .crashed session _ => server.disconnect session .lost
  | _ => server

end Server

/-- What is on record about the latest job that a worker has claimed. -/
structure Attempt where
  /-- The rows that were taken as its duplicates. -/
  merged : List Row
  /-- How the handler received it. -/
  reception? : Option Reception

def Attempt.fresh : Attempt := ⟨[], none⟩

/-- A worker of a crew with the answer to its call, if there is one. What is recorded besides has no
effect on anything. -/
structure Member (duties : Duties α) where
  worker : Worker α
  answer? : Option (worker.call duties).Answer
  /-- The instant at which its latest call was answered. -/
  servedAt : Instant
  attempt : Attempt

namespace Call

/-- The answer with which a call lets its worker go on. A worker that waits for time to pass needs
none, but has to be due. -/
def ready (due : Bool) : (call : Call α) → Option call.Answer → Option call.Answer
  | .pause, _ => if due then some () else none
  | _, answer => answer

/-- What is on record once a call is answered. -/
def attempt : (call : Call α) → Option call.Answer → Attempt → Attempt
  | .execute _ (.claim ..), some (.ok (some _)), _ => .fresh
  | .execute _ (.takeDuplicates ..), some (.ok rows), attempt => { attempt with merged := rows }
  | .deliver .., some reception, attempt => { attempt with reception? := some reception }
  | _, _, attempt => attempt

end Call

namespace Member

variable {duties : Duties α}

def ofName (duties : Duties α) (name : String) (now : Instant) : Member duties :=
  ⟨Worker.ofName duties.settings name, none, now, .fresh⟩

/-- The answer with which a member goes on at present. -/
def ready (member : Member duties) (shared : Shared) (moment : Moment) :
    Option (member.worker.call duties).Answer :=
  (member.worker.call duties).ready (member.worker.isDue shared moment) member.answer?

def spawn (member : Member duties) : Member duties :=
  ⟨{ member.worker with point := .starting }, none, member.servedAt, member.attempt⟩

end Member

structure World (duties : Duties α) where
  now : Instant
  server : Server
  shared : Shared
  crew : Crew
  members : List (Member duties)
  /-- The end of the time that is allowed, and the tasks that are waited for, while somebody waits
  for the crew. -/
  awaited : Option (Instant × List Nat)

/-- What may happen. -/
inductive Move where
  /-- Time passes. -/
  | pass (span : Span)
  /-- A producer enqueues a row. -/
  | produce (row : Row) (visibleFrom : Instant)
  /-- The server drops a connection. -/
  | drop (session : Nat)
  /-- The call of a worker is answered. -/
  | answer (number : Nat) (chance : Chance)
  /-- The handler of a worker writes on its connection. -/
  | write (number : Nat) (text : String) (mishap : Option Mishap)
  /-- A worker goes on. -/
  | resume (number : Nat)
  | start
  | stop
  | await (timeout : Span)
  /-- The waiting for the crew comes to an end. -/
  | endAwait
  /-- The crew is given up. -/
  | release

namespace World

variable {duties : Duties α} (world : World duties)

def moment : Moment := ⟨world.now, world.crew.isStopped⟩

def taskStatus (number : Nat) : TaskStatus :=
  match world.members[number]? with
  | some member => member.worker.taskStatus
  | none => .finished

def areOver (tasks : List Nat) : Bool :=
  tasks.all fun task ↦ world.taskStatus task != .unfinished

/-- Whether a call of the lifecycle may be made: nobody waits for the crew, and it has not been
given up. -/
def admitsCall : Bool := world.awaited.isNone && !world.crew.isReleased

def withServer (server : Server) : World duties := { world with server }

def withMember (number : Nat) (member : Member duties) : World duties :=
  { world with members := world.members.set number member }

def spawn (number : Nat) : World duties :=
  match world.members[number]? with
  | some member => world.withMember number member.spawn
  | none => world

def answer (number : Nat) (chance : Chance) : World duties :=
  match world.members[number]? with
  | some ⟨worker, none, _, attempt⟩ =>
    let (server, answer?) := world.server.answer world.now chance (worker.call duties)
    (world.withServer server).withMember number
      ⟨worker, answer?, world.now, (worker.call duties).attempt answer? attempt⟩
  | _ => world

def resume (number : Nat) : World duties :=
  match world.members[number]? with
  | some member =>
    match member.ready world.shared world.moment with
    | some answer =>
      let turn := member.worker.resume duties world.moment world.shared answer
      { world with
        server := world.server.bury turn.worker.point
        shared := turn.shared
        members :=
          world.members.set number ⟨turn.worker, none, member.servedAt, member.attempt⟩ }
    | none => world
  | none => world

def write (number : Nat) (text : String) (mishap : Option Mishap) : World duties :=
  match world.members[number]? with
  | some ⟨⟨_, _, _, .working session _ .delivering⟩, none, _, _⟩ =>
    world.withServer (world.server.exchange session world.now mishap (.note text)).1
  | _ => world

def start : World duties :=
  let (crew, _, result) := world.crew.start world.taskStatus duties.settings.queueNames
  match result with
  | .ok tasks => tasks.foldl spawn { world with crew }
  | .error _ => world

/-- Somebody begins to wait for the crew. -/
def await (timeout : Span) : World duties :=
  match world.crew.beginAwait with
  | .ok (crew, tasks) => { world with crew, awaited := some (world.now.afterSleep timeout, tasks) }
  | .error _ => world

/-- The waiting for the crew ends when the tasks are over, or else when the time is up. In that case
the tasks are forgotten. -/
def endAwait : World duties :=
  match world.awaited with
  | some (deadline, tasks) =>
    if world.areOver tasks then
      { world with crew := (world.crew.reclaim world.taskStatus tasks).1, awaited := none }
    else if deadline ≤ world.now then { world with awaited := none }
    else world
  | none => world

def step : Move → World duties
  | .pass span => { world with now := world.now.after span }
  | .produce row visibleFrom =>
    world.withServer { world.server with store := world.server.store.produce row visibleFrom }
  | .drop session =>
    if world.server.isLive session then world.withServer (world.server.disconnect session .dropped)
    else world
  | .answer number chance => world.answer number chance
  | .write number text mishap => world.write number text mishap
  | .resume number => world.resume number
  | .start => if world.admitsCall then world.start else world
  | .stop => if world.crew.isReleased then world else { world with crew := world.crew.stop.1 }
  | .await timeout => if world.admitsCall then world.await timeout else world
  | .endAwait => world.endAwait
  | .release => { world with crew := world.crew.release }

def initial (duties : Duties α) (workers : Nat) (shared : Shared) (now : Instant) :
    World duties where
  now := now
  server := ⟨Store.empty, []⟩
  shared := shared
  crew := Crew.ofSize workers
  members := (List.range workers).map fun number ↦
    Member.ofName duties (Crew.workerName number) now
  awaited := none

end World

/-! ## Runs -/

/-- The moves of a run with the worlds in which they were made, the latest first. -/
abbrev Past (duties : Duties α) := List (World duties × Move)

/-- A run whose moves are all allowed where they are made. -/
inductive Run {duties : Duties α} (allowed : World duties → Move → Prop) (start : World duties) :
    Past duties → World duties → Prop where
  | rest : Run allowed start [] start
  | move {past : Past duties} {world : World duties} {move : Move} :
      Run allowed start past world → allowed world move →
        Run allowed start ((world, move) :: past) (world.step move)

def Anything {duties : Duties α} (_ : World duties) (_ : Move) : Prop := True

namespace Run

variable {duties : Duties α} {allowed : World duties → Move → Prop} {start world : World duties}
  {past : Past duties}

/-- A run stays one when more moves are allowed. -/
theorem mono {allowed' : World duties → Move → Prop}
    (h : ∀ world move, allowed world move → allowed' world move)
    (run : Run allowed start past world) : Run allowed' start past world := by
  induction run with
  | rest => exact .rest
  | move _ hmove ih => exact .move ih (h _ _ hmove)

theorem restrict {allowed' : World duties → Move → Prop} (run : Run allowed start past world)
    (h : ∀ pair ∈ past, allowed' pair.1 pair.2) : Run allowed' start past world := by
  induction run with
  | rest => exact .rest
  | move _ _ ih =>
    exact .move (ih fun pair hpair ↦ h pair (List.mem_cons_of_mem _ hpair)) (h _ List.mem_cons_self)

/-- Every world of the past was the end of a run. -/
theorem of_mem (run : Run allowed start past world) {earlier : World duties} {move : Move}
    (h : (earlier, move) ∈ past) : ∃ past', Run allowed start past' earlier := by
  induction run with
  | rest => cases h
  | move run' _ ih =>
    rcases List.mem_cons.1 h with hlast | hpast
    · obtain ⟨rfl, -⟩ := Prod.mk.inj hlast
      exact ⟨_, run'⟩
    · exact ih hpast

/-- What holds at the start and is preserved by every allowed move holds after every run. -/
theorem preserves {invariant : World duties → Prop} (hstart : invariant start)
    (hstep : ∀ world move, invariant world → allowed world move → invariant (world.step move))
    (run : Run allowed start past world) : invariant world := by
  induction run with
  | rest => exact hstart
  | move _ hmove ih => exact hstep _ _ ih hmove

end Run

/-- The world after a list of moves, with the past. -/
def World.play {duties : Duties α} (start : World duties) (moves : List Move) :
    Past duties × World duties :=
  moves.foldl (fun (past, world) move ↦ ((world, move) :: past, world.step move)) ([], start)

/-- Any list of moves makes a run. -/
theorem Run.play {duties : Duties α} (start : World duties) (moves : List Move) :
    Run Anything start (start.play moves).1 (start.play moves).2 := by
  have hfold (past : Past duties) (world : World duties) (run : Run Anything start past world) :
      ∀ moves : List Move, Run Anything start
        (moves.foldl (fun (past, world) move ↦ ((world, move) :: past, world.step move))
          (past, world)).1
        (moves.foldl (fun (past, world) move ↦ ((world, move) :: past, world.step move))
          (past, world)).2 := by
    intro moves
    induction moves generalizing past world with
    | nil => exact run
    | cons move rest ih => exact ih _ _ (.move run trivial)
  exact hfold [] start .rest moves

/-- A list of moves that are allowed where they are made makes a run of such moves. -/
theorem Run.play_of_all {duties : Duties α} (allowed : World duties → Move → Bool)
    (start : World duties) (moves : List Move)
    (h : (start.play moves).1.all fun pair ↦ allowed pair.1 pair.2) :
    Run (fun world move ↦ allowed world move) start (start.play moves).1 (start.play moves).2 :=
  (Run.play start moves).restrict (List.all_eq_true.1 h)

/-! ## A crew to look at

A crew that serves one queue whose jobs are their own cells, for runs that are written out. -/

namespace Sample

def duties (deduplicator : Option (Deduplicator (List Cell))) : Duties (List Cell) :=
  ⟨{ Settings.default with queueNames := ["a"] }, ⟨.ok, id⟩, deduplicator⟩

def shared : Shared := ⟨.free, .free, .neverTrips, ⟨Span.zero, []⟩⟩

def row (seconds : Nat) (job : List Cell) : Row :=
  ⟨"a", some ⟨0⟩, ⟨seconds * 1000000000⟩, some 0, job⟩

def rounds (number : Nat) (chances : List Chance) : List Move :=
  chances.flatMap fun chance ↦ [.answer number chance, .resume number]

def smooth (calls : Nat) : List Chance := List.replicate calls .plain

def rejecting (failure : JobFailure) : Chance := { Chance.plain with reception := .rejected failure }

def refusing : Chance := { Chance.plain with mishap := some (.refusal "no") }

def closed : Chance := { Chance.plain with refusal := some (.io "no") }

def throttled (rule : Throttle.Rule) : Shared :=
  { shared with connectThrottle := ⟨"", [.ofRule rule], 0⟩ }

end Sample

end TableQueue
