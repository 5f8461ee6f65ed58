import TableQueue.Proofs.World.Basic
import TableQueue.Proofs.World.Crews

/-!
# What a move does

A move that is not possible changes nothing. Each of the others changes the world in one way, except
that the waiting for the crew ends either with its workers back or without them. All of this is said
once, as an inductive relation, and every invariant of runs is proved from it.
-/

namespace TableQueue

variable {α : Type} {duties : Duties α}

namespace World

variable {world : World duties} {number : Nat}

/-! ## Equations -/

/-- A member whose call is open gets the answer of the server. -/
theorem answer_eq {worker : Worker α} {servedAt : Instant} {attempt : Attempt}
    (h : world.members[number]? = some ⟨worker, none, servedAt, attempt⟩) (chance : Chance) :
    world.answer number chance =
      { world with
        server := (world.server.answer world.now chance (worker.call duties)).1
        members := world.members.set number
          ⟨worker, (world.server.answer world.now chance (worker.call duties)).2, world.now,
            (worker.call duties).attempt
              (world.server.answer world.now chance (worker.call duties)).2 attempt⟩ } := by
  simp only [answer, h]
  rfl

theorem resume_eq {member : Member duties} {answer : (member.worker.call duties).Answer}
    (hmember : world.members[number]? = some member)
    (hready : member.ready world.shared world.moment = some answer) :
    world.resume number =
      let turn := member.worker.resume duties world.moment world.shared answer
      { world with
        server := world.server.bury turn.worker.point
        shared := turn.shared
        members :=
          world.members.set number ⟨turn.worker, none, member.servedAt, member.attempt⟩ } := by
  simp only [resume, hmember, hready]

/-! ## The tasks of a start -/

theorem spawn_eq (world : World duties) (number : Nat) :
    world.spawn number = { world with members := (world.spawn number).members } := by
  unfold spawn
  split <;> rfl

theorem getElem?_spawn (world : World duties) (number j : Nat) :
    (world.spawn number).members[j]? =
      (world.members[j]?).map fun member ↦ if j = number then member.spawn else member := by
  unfold spawn
  cases hmember : world.members[number]? with
  | none =>
    by_cases hj : j = number
    · simp [hj, hmember]
    · simp [hj]
  | some member =>
    have hlt := (List.getElem?_eq_some_iff.1 hmember).1
    by_cases hj : j = number
    · simp [withMember, hj, hmember, List.getElem?_set_self hlt]
    · simp [withMember, hj, List.getElem?_set_ne (Ne.symm hj)]

/-- Beginning tasks changes nothing but the members. -/
theorem foldl_spawn (world : World duties) (tasks : List Nat) :
    tasks.foldl spawn world = { world with members := (tasks.foldl spawn world).members } := by
  induction tasks generalizing world with
  | nil => rfl
  | cons task rest ih =>
    rw [List.foldl_cons, ih, spawn_eq]

/-- Just the members whose tasks begin are changed. -/
theorem getElem?_foldl_spawn (world : World duties) (tasks : List Nat) (j : Nat) :
    (tasks.foldl spawn world).members[j]? =
      (world.members[j]?).map fun member ↦ if j ∈ tasks then member.spawn else member := by
  induction tasks generalizing world with
  | nil => simp
  | cons task rest ih =>
    rw [List.foldl_cons, ih, getElem?_spawn, Option.map_map]
    refine congrArg (fun change ↦ (world.members[j]?).map change) (funext fun member ↦ ?_)
    by_cases hj : j = task <;> by_cases hrest : j ∈ rest <;>
      simp [hj, hrest, Member.spawn]

theorem length_members_foldl_spawn (world : World duties) (tasks : List Nat) :
    (tasks.foldl spawn world).members.length = world.members.length := by
  induction tasks generalizing world with
  | nil => rfl
  | cons task rest ih =>
    rw [List.foldl_cons, ih]
    unfold spawn
    split
    · exact List.length_set
    · rfl

theorem members_foldl_spawn (world : World duties) (crew : Crew) (tasks : List Nat) :
    (tasks.foldl spawn { world with crew }).members = (tasks.foldl spawn world).members := by
  apply List.ext_getElem?
  intro j
  rw [getElem?_foldl_spawn, getElem?_foldl_spawn]

/-- A start that succeeds begins the tasks of some members. -/
theorem start_eq {world : World duties} {tasks : List Nat}
    (h : (world.crew.start world.taskStatus duties.settings.queueNames).2.2 = .ok tasks) :
    world.start =
      { world with
        crew := { world.crew with isRunning := true, idle := [], tasks }
        members := (tasks.foldl spawn world).members } := by
  obtain ⟨-, -, -, hcrew⟩ := Crew.start_of_ok h
  have hmembers := members_foldl_spawn world
    { world.crew with isRunning := true, idle := [], tasks } tasks
  simp only [World.start, h, hcrew]
  rw [foldl_spawn, hmembers]

theorem taskStatus_of_getElem? {member : Member duties} (h : world.members[number]? = some member) :
    world.taskStatus number = member.worker.taskStatus := by
  simp only [taskStatus, h]

/-- A task that is over and has not crashed leaves its worker idle. -/
theorem point_of_taskStatus {worker : Worker α} (hfinished : worker.taskStatus ≠ .unfinished)
    (hcrash : worker.taskStatus.isCrash = false) : worker.point = .idle := by
  cases hpoint : worker.point with
  | idle => rfl
  | crashed =>
    simp only [Worker.taskStatus, hpoint, TaskStatus.isCrash, Bool.true_eq_false] at hcrash
  | starting | atConnectGate | connecting | atFailureGate | asleep | polling | working
    | rollingBack | closing =>
    simp only [Worker.taskStatus, hpoint, ne_eq, not_true_eq_false] at hfinished

/-! ## Steps -/

end World

/-- Whether a move may be refused, that is, be made where it is not possible. The answer to a call
and the end of the waiting for the crew are not among these moves. -/
def Move.isRefusable : Move → Bool
  | drop _ | write .. | resume _ | start | stop | await _ => true
  | pass _ | produce .. | answer .. | endAwait | release => false

/-- Everything that a move can do. -/
inductive Steps (world : World duties) : Move → World duties → Prop where
  | refused {move : Move} : move.isRefusable → Steps world move world
  | passed (span : Span) :
      Steps world (.pass span) { world with now := world.now.after span }
  | produced (row : Row) (visibleFrom : Instant) :
      Steps world (.produce row visibleFrom)
        { world with
          server := { world.server with store := world.server.store.produce row visibleFrom } }
  | dropped {session : Nat} : world.server.isLive session →
      Steps world (.drop session)
        { world with server := world.server.disconnect session .dropped }
  /-- There is nothing to answer. -/
  | unanswered {number : Nat} {chance : Chance} :
      (∀ worker servedAt attempt, world.members[number]? ≠ some ⟨worker, none, servedAt, attempt⟩) →
      Steps world (.answer number chance) world
  | answered {number : Nat} {worker : Worker α} {servedAt : Instant} {attempt : Attempt}
      (chance : Chance) : world.members[number]? = some ⟨worker, none, servedAt, attempt⟩ →
      Steps world (.answer number chance)
        { world with
          server := (world.server.answer world.now chance (worker.call duties)).1
          members := world.members.set number
            ⟨worker, (world.server.answer world.now chance (worker.call duties)).2, world.now,
              (worker.call duties).attempt
                (world.server.answer world.now chance (worker.call duties)).2 attempt⟩ }
  | wrote {number session : Nat} {job : Job α} {worker : Worker α} {servedAt : Instant}
      {attempt : Attempt} (text : String) (mishap : Option Mishap) :
      worker.point = .working session job .delivering →
      world.members[number]? = some ⟨worker, none, servedAt, attempt⟩ →
      Steps world (.write number text mishap)
        { world with
          server := (world.server.exchange session world.now mishap (.note text)).1 }
  | resumed {number : Nat} {member : Member duties} {answer : (member.worker.call duties).Answer}
      {turn : Turn α} : world.members[number]? = some member →
      member.ready world.shared world.moment = some answer →
      turn = member.worker.resume duties world.moment world.shared answer →
      Steps world (.resume number)
        { world with
          server := world.server.bury turn.worker.point
          shared := turn.shared
          members :=
            world.members.set number ⟨turn.worker, none, member.servedAt, member.attempt⟩ }
  | started {tasks : List Nat} : world.admitsCall →
      (world.crew.start world.taskStatus duties.settings.queueNames).2.2 = .ok tasks →
      Steps world .start
        { world with
          crew := { world.crew with isRunning := true, idle := [], tasks }
          members := (tasks.foldl World.spawn world).members }
  | stopped : world.crew.isReleased = false → world.crew.isRunning →
      Steps world .stop { world with crew := { world.crew with isRunning := false } }
  | awaited {timeout : Span} : world.admitsCall → world.crew.isRunning = false →
      Steps world (.await timeout)
        { world with
          crew := { world.crew with tasks := [] }
          awaited := some (world.now.afterSleep timeout, world.crew.tasks) }
  /-- The waiting goes on, if somebody waits at all. -/
  | waiting : (∀ deadline tasks, world.awaited = some (deadline, tasks) →
        world.areOver tasks = false ∧ ¬ deadline ≤ world.now) →
      Steps world .endAwait world
  | reclaimed {deadline : Instant} {tasks : List Nat} : world.awaited = some (deadline, tasks) →
      world.areOver tasks →
      Steps world .endAwait
        { world with
          crew := { world.crew with
            idle := world.crew.idle ++ tasks.filter fun task ↦ !(world.taskStatus task).isCrash }
          awaited := none }
  | forgotten {deadline : Instant} {tasks : List Nat} : world.awaited = some (deadline, tasks) →
      world.areOver tasks = false → deadline ≤ world.now →
      Steps world .endAwait { world with awaited := none }
  | released : Steps world .release { world with crew := world.crew.release }

namespace World

/-- What an answer can do. -/
theorem steps_answer (world : World duties) (number : Nat) (chance : Chance) :
    Steps world (.answer number chance) (world.answer number chance) := by
  cases hmember : world.members[number]? with
  | none =>
    simp only [answer, hmember]
    exact .unanswered (by simp [hmember])
  | some member =>
    obtain ⟨worker, _ | reply, servedAt, attempt⟩ := member
    · rw [answer_eq hmember]
      exact .answered chance hmember
    · simp only [answer, hmember]
      refine .unanswered fun _ _ _ hopen ↦ ?_
      rw [hmember] at hopen
      cases hopen

theorem steps_write (world : World duties) (number : Nat) (text : String)
    (mishap : Option Mishap) : Steps world (.write number text mishap)
      (world.write number text mishap) := by
  unfold write
  split
  · next hmember => exact .wrote text mishap rfl hmember
  · exact .refused rfl

/-- What going on can do. -/
theorem steps_resume (world : World duties) (number : Nat) :
    Steps world (.resume number) (world.resume number) := by
  cases hmember : world.members[number]? with
  | none =>
    simp only [resume, hmember]
    exact .refused rfl
  | some member =>
    cases hready : member.ready world.shared world.moment with
    | none =>
      simp only [resume, hmember, hready]
      exact .refused rfl
    | some answer =>
      rw [resume_eq hmember hready]
      exact .resumed hmember hready rfl

theorem steps_start (world : World duties) (hadmits : world.admitsCall) :
    Steps world .start world.start := by
  cases hstart : (world.crew.start world.taskStatus duties.settings.queueNames).2.2 with
  | error fault =>
    simp only [World.start, hstart]
    exact .refused rfl
  | ok tasks =>
    rw [start_eq hstart]
    exact .started hadmits hstart

theorem steps_await (world : World duties) (hadmits : world.admitsCall) (timeout : Span) :
    Steps world (.await timeout) (world.await timeout) := by
  cases hrunning : world.crew.isRunning with
  | true =>
    simp only [World.await, Crew.beginAwait, hrunning, if_true]
    exact .refused rfl
  | false =>
    have hbegin : world.crew.beginAwait = .ok ({ world.crew with tasks := [] }, world.crew.tasks) := by
      rw [Crew.beginAwait, if_neg (Bool.eq_false_iff.1 hrunning)]
    simp only [World.await, hbegin]
    exact .awaited hadmits hrunning

theorem steps_endAwait (world : World duties) : Steps world .endAwait world.endAwait := by
  cases hawaited : world.awaited with
  | none =>
    simp only [World.endAwait, hawaited]
    exact .waiting (by simp [hawaited])
  | some pair =>
    obtain ⟨deadline, tasks⟩ := pair
    simp only [World.endAwait, hawaited, Crew.reclaim_eq]
    split
    · next hover => exact .reclaimed hawaited hover
    · next hover =>
      have hover : world.areOver tasks = false := by simpa using hover
      split
      · next hdeadline => exact .forgotten hawaited hover hdeadline
      · next hdeadline => exact .waiting (by simp_all)

/-- Every move does what it can do. -/
theorem steps (world : World duties) (move : Move) : Steps world move (world.step move) := by
  cases move with
  | pass span => exact .passed span
  | produce row visibleFrom => exact .produced row visibleFrom
  | drop session =>
    simp only [World.step]
    split
    · next hlive => exact .dropped hlive
    · exact .refused rfl
  | answer number chance => exact world.steps_answer number chance
  | write number text mishap => exact world.steps_write number text mishap
  | resume number => exact world.steps_resume number
  | start =>
    simp only [World.step]
    split
    · next hadmits => exact world.steps_start hadmits
    · exact .refused rfl
  | stop =>
    simp only [World.step, Crew.stop]
    split
    · exact .refused rfl
    · next hreleased =>
      split
      · next hrunning => exact .stopped (by simpa using hreleased) hrunning
      · exact .refused rfl
  | await timeout =>
    simp only [World.step]
    split
    · next hadmits => exact world.steps_await hadmits timeout
    · exact .refused rfl
  | endAwait => exact world.steps_endAwait
  | release => exact .released

/-- No move changes the size of the crew. -/
theorem length_members_step (world : World duties) (move : Move) :
    (world.step move).members.length = world.members.length := by
  have hsteps := world.steps move
  generalize world.step move = world' at hsteps ⊢
  cases hsteps with
  | answered | resumed => exact List.length_set
  | started => exact length_members_foldl_spawn world _
  | refused | passed | produced | dropped | unanswered | wrote | stopped | awaited | waiting
    | reclaimed | forgotten | released => rfl

/-- Time does not run backwards. -/
theorem now_le_step (world : World duties) (move : Move) : world.now ≤ (world.step move).now := by
  have hsteps := world.steps move
  generalize world.step move = world' at hsteps ⊢
  cases hsteps with
  | passed span =>
    simp only [Instant.le_iff, Instant.after]
    omega
  | refused | produced | dropped | unanswered | answered | resumed | started | wrote | stopped
    | awaited | waiting | reclaimed | forgotten | released => exact Int.le_refl _

end World

end TableQueue
