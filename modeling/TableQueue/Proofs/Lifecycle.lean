import TableQueue.Proofs.World.Sound

/-!
# The workers of a crew

As long as no task crashes, every worker of a crew is idle, behind one task that the crew keeps track
of, or waited for. The exceptions are the workers of tasks that were waited for in vain: when the
time is up, the crew drops their tasks and never sees the workers again, so a later start begins
fewer tasks. A crew keeps all its workers exactly if no time limit has ever run out.
-/

namespace TableQueue

variable {α : Type} {duties : Duties α}

namespace World

def isIntact (world : World duties) : Bool :=
  world.members.all fun member ↦ !member.worker.taskStatus.isCrash

/-- Whether somebody gives up waiting because the time is up, though some tasks are not over. -/
def timesOut (world : World duties) : Move → Bool
  | .endAwait =>
    match world.awaited with
    | some (deadline, tasks) => !world.areOver tasks && decide (deadline ≤ world.now)
    | none => false
  | _ => false

def awaitedTasks (world : World duties) : List Nat := (world.awaited.map Prod.snd).getD []

def forgets (world : World duties) (move : Move) : List Nat :=
  if world.timesOut move then world.awaitedTasks else []

end World

def Past.forgotten (past : Past duties) : List Nat :=
  past.reverse.flatMap fun (world, move) ↦ world.forgets move

theorem Past.forgotten_cons (world : World duties) (move : Move) (past : Past duties) :
    Past.forgotten ((world, move) :: past) = past.forgotten ++ world.forgets move := by
  simp [Past.forgotten]

namespace World

variable {world : World duties} {forgotten : List Nat} {workers : Nat}

/-- Every worker is in exactly one place. -/
def Tracks (workers : Nat) (forgotten : List Nat) (world : World duties) : Prop :=
  (world.crew.idle ++ world.crew.tasks ++ world.awaitedTasks ++ forgotten).Perm (List.range workers)

theorem isCrash_of_isIntact (h : world.isIntact) (number : Nat) :
    (world.taskStatus number).isCrash = false := by
  cases hmember : world.members[number]? with
  | none => simp only [taskStatus, hmember, TaskStatus.isCrash]
  | some member =>
    rw [taskStatus_of_getElem? hmember]
    simpa using List.all_eq_true.1 h member (List.mem_of_getElem? hmember)

theorem filter_of_isIntact (h : world.isIntact) (tasks : List Nat) :
    (tasks.filter fun task ↦ !(world.taskStatus task).isCrash) = tasks :=
  List.filter_eq_self.2 fun task _ ↦ by rw [isCrash_of_isIntact h task]; rfl

/-- A start turns all workers that the crew knows of into tasks. -/
theorem start_of_isIntact (h : world.isIntact) {tasks : List Nat}
    (htasks : (world.crew.start world.taskStatus duties.settings.queueNames).2.2 = .ok tasks) :
    tasks = world.crew.idle ++ world.crew.tasks := by
  obtain ⟨-, -, htasks, -⟩ := Crew.start_of_ok htasks
  rwa [filter_of_isIntact h] at htasks

/-- A start begins the tasks that it reports and touches nobody else. -/
theorem members_start {tasks : List Nat}
    (htasks : (world.crew.start world.taskStatus duties.settings.queueNames).2.2 = .ok tasks)
    (number : Nat) :
    world.start.members[number]? =
      (world.members[number]?).map fun member ↦ if number ∈ tasks then member.spawn else member := by
  rw [start_eq htasks]
  exact getElem?_foldl_spawn world tasks number

/-- A start leaves other tasks alone. -/
theorem taskStatus_start {tasks : List Nat}
    (htasks : (world.crew.start world.taskStatus duties.settings.queueNames).2.2 = .ok tasks)
    {number : Nat} (hnumber : number ∉ tasks) :
    world.start.taskStatus number = world.taskStatus number := by
  have hmembers : world.start.members[number]? = world.members[number]? := by
    simp only [members_start htasks, if_neg hnumber, Option.map_id']
  simp only [taskStatus, hmembers]

theorem Tracks.initial (duties : Duties α) (workers : Nat) (shared : Shared) (now : Instant) :
    (World.initial duties workers shared now).Tracks workers [] := by
  simp [Tracks, World.initial, Crew.ofSize, awaitedTasks]

theorem Tracks.of_eq (h : world.Tracks workers forgotten) {world' : World duties}
    (hidle : world'.crew.idle = world.crew.idle) (htasks : world'.crew.tasks = world.crew.tasks)
    (hawaited : world'.awaited = world.awaited) : world'.Tracks workers forgotten := by
  rw [Tracks, hidle, htasks, awaitedTasks, hawaited]
  exact h

theorem Tracks.awaited (h : world.Tracks workers forgotten) (hadmits : world.admitsCall)
    (deadline : Instant) :
    ({ world with
      crew := { world.crew with tasks := [] }
      awaited := some (deadline, world.crew.tasks) } : World duties).Tracks workers forgotten := by
  have hnone : world.awaited = none := by
    simp only [admitsCall, Bool.and_eq_true, Option.isNone_iff_eq_none] at hadmits
    exact hadmits.1
  simpa [Tracks, awaitedTasks, hnone] using h

/-- When the waiting ends, the tasks that were waited for are idle or dropped. -/
theorem Tracks.settled (h : world.Tracks workers forgotten) {deadline : Instant} {tasks : List Nat}
    (hawaited : world.awaited = some (deadline, tasks)) {idle dropped : List Nat}
    (hparts : idle ++ dropped = tasks) :
    ({ world with
      crew := { world.crew with idle := world.crew.idle ++ idle }
      awaited := none } : World duties).Tracks workers (forgotten ++ dropped) := by
  refine List.Perm.trans (List.perm_iff_count.2 fun number ↦ ?_) h
  simp only [awaitedTasks, hawaited, ← hparts, Option.map_none, Option.map_some, Option.getD_none,
    Option.getD_some, List.count_append, List.count_nil]
  omega

theorem timesOut_of_isRefusable {move : Move} (h : move.isRefusable) :
    world.timesOut move = false := by
  cases move with
  | drop | write | resume | start | stop | await => rfl
  | pass | produce | answer | endAwait | release => cases h

theorem timesOut_of_waiting (h : ∀ deadline tasks, world.awaited = some (deadline, tasks) →
    world.areOver tasks = false ∧ ¬ deadline ≤ world.now) : world.timesOut .endAwait = false := by
  cases hawaited : world.awaited with
  | none => simp only [timesOut, hawaited]
  | some pair =>
    obtain ⟨-, hlater⟩ := h pair.1 pair.2 hawaited
    simp only [timesOut, hawaited, hlater, decide_false, Bool.and_false]

/-- Every move keeps track of the workers. -/
theorem Tracks.of_steps (h : world.Tracks workers forgotten) (hintact : world.isIntact)
    {move : Move} {world' : World duties} (hsteps : Steps world move world') :
    world'.Tracks workers (forgotten ++ world.forgets move) := by
  have hkept (htimely : world.timesOut move = false) (hsteps : world'.Tracks workers forgotten) :
      world'.Tracks workers (forgotten ++ world.forgets move) := by
    have hforgets : world.forgets move = [] := by
      rw [forgets, htimely]
      rfl
    rwa [hforgets, List.append_nil]
  cases hsteps with
  | refused hrefusable => exact hkept (timesOut_of_isRefusable hrefusable) h
  | passed | produced | dropped | unanswered | answered | wrote | resumed | stopped | released =>
    exact hkept rfl (h.of_eq rfl rfl rfl)
  | started _ htasks =>
    refine hkept rfl ?_
    rw [Tracks, start_of_isIntact hintact htasks]
    exact h
  | awaited hadmits => exact hkept rfl (h.awaited hadmits _)
  | waiting hwaits => exact hkept (timesOut_of_waiting hwaits) h
  | reclaimed hawaited hover =>
    refine hkept (by simp [timesOut, hawaited, hover]) ?_
    rw [filter_of_isIntact hintact]
    simpa using h.settled hawaited (List.append_nil _)
  | @forgotten deadline tasks hawaited hunfinished hdeadline =>
    have hforgets : world.forgets .endAwait = tasks := by
      simp [forgets, timesOut, hawaited, hunfinished, hdeadline, awaitedTasks]
    rw [hforgets]
    simpa using h.settled hawaited (List.nil_append _)

/-- Every worker stays in exactly one place as long as no task crashes. -/
theorem tracks_of_run {allowed : World duties → Move → Prop} {shared : Shared} {now : Instant}
    {past : Past duties} (run : Run allowed (World.initial duties workers shared now) past world)
    (hintact : ∀ pair ∈ past, pair.1.isIntact) : world.Tracks workers past.forgotten := by
  induction run with
  | rest => exact Tracks.initial duties workers shared now
  | move _ _ ih =>
    rw [Past.forgotten_cons]
    exact (ih fun pair hpair ↦ hintact pair (List.mem_cons_of_mem _ hpair)).of_steps
      (hintact _ List.mem_cons_self) (World.steps _ _)

/-- A crew keeps its size throughout a run. -/
theorem length_members_of_run {allowed : World duties → Move → Prop} {shared : Shared}
    {now : Instant} {past : Past duties}
    (run : Run allowed (World.initial duties workers shared now) past world) :
    world.members.length = workers := by
  induction run with
  | rest => simp [World.initial]
  | move _ _ ih => rw [length_members_step, ih]

/-- Who gives up waiting drops at least one task. -/
theorem forgets_eq_nil_iff (world : World duties) (move : Move) :
    world.forgets move = [] ↔ world.timesOut move = false := by
  unfold forgets
  split
  · next htimesOut =>
    simp only [htimesOut, Bool.true_eq_false, iff_false]
    cases move with
    | pass | produce | drop | answer | write | resume | start | stop | await | release =>
      cases htimesOut
    | endAwait =>
      simp only [timesOut] at htimesOut
      split at htimesOut
      · next deadline tasks hawaited =>
        rintro hnone
        have htasks : tasks = [] := by simpa [awaitedTasks, hawaited] using hnone
        subst htasks
        simp [areOver] at htimesOut
      · cases htimesOut
  · next htimesOut => simpa using htimesOut

end World

/-- No task is dropped exactly if nobody gives up waiting. -/
theorem Past.forgotten_eq_nil_iff (past : Past duties) :
    past.forgotten = [] ↔ ∀ pair ∈ past, pair.1.timesOut pair.2 = false := by
  simp [Past.forgotten, World.forgets_eq_nil_iff]

/-- As long as no task crashes, the crew knows of every worker in exactly one place, except for those
whose tasks were dropped when the time for them was up. It has its full size, and a start that
succeeds begins its full number of tasks, exactly if that has never happened. Of the tasks that were
dropped, some may not be over yet, and these go on when the crew is started. So a start leaves all
workers at work exactly if none of the dropped tasks is over. -/
theorem keeps_workers_iff {workers : Nat} {shared : Shared} {now : Instant} {past : Past duties}
    {world : World duties}
    (run : Run Anything (World.initial duties workers shared now) past world)
    (hintact : ∀ pair ∈ past, pair.1.isIntact) (hnone : world.awaited = none) :
    (world.crew.idle ++ world.crew.tasks ++ past.forgotten).Perm (List.range workers) ∧
    (world.crew.size = workers ↔ ∀ pair ∈ past, pair.1.timesOut pair.2 = false) ∧
    ∀ tasks, world.admitsCall → world.isIntact →
      (world.crew.start world.taskStatus duties.settings.queueNames).2.2 = .ok tasks →
        (world.step .start).crew.idle = [] ∧ (world.step .start).crew.tasks = tasks ∧
        (tasks ++ past.forgotten).Perm (List.range workers) ∧
        (∀ task ∈ tasks, ∃ member, (world.step .start).members[task]? = some member ∧
          member.worker.point = .starting) ∧
        (tasks.length = workers ↔ ∀ pair ∈ past, pair.1.timesOut pair.2 = false) ∧
        ((∀ number < workers, (world.step .start).taskStatus number = .unfinished) ↔
          ∀ number ∈ past.forgotten, world.taskStatus number = .unfinished) := by
  have htracked : (world.crew.idle ++ world.crew.tasks ++ past.forgotten).Perm
      (List.range workers) := by
    simpa [World.Tracks, World.awaitedTasks, hnone] using World.tracks_of_run run hintact
  have hsize : world.crew.size + past.forgotten.length = workers := by
    simpa [Crew.size, Nat.add_assoc] using htracked.length_eq
  have hcomplete : world.crew.size = workers ↔ ∀ pair ∈ past, pair.1.timesOut pair.2 = false := by
    rw [← Past.forgotten_eq_nil_iff, ← List.length_eq_zero_iff]
    omega
  refine ⟨htracked, hcomplete, fun tasks hadmits hcalm hstart ↦ ?_⟩
  have htasks := World.start_of_isIntact hcalm hstart
  have hperm : (tasks ++ past.forgotten).Perm (List.range workers) := htasks ▸ htracked
  have hstep : world.step .start = world.start := by simp only [World.step, hadmits, if_true]
  have hknown (number : Nat) : number < workers ↔ number ∈ tasks ∨ number ∈ past.forgotten := by
    rw [← List.mem_range, ← hperm.mem_iff, List.mem_append]
  have hspawned {task : Nat} (htask : task ∈ tasks) :
      ∃ member, world.start.members[task]? = some member ∧ member.worker.point = .starting := by
    have hlt : task < world.members.length := by
      rw [World.length_members_of_run run]
      exact (hknown task).2 (.inl htask)
    refine ⟨(world.members[task]).spawn, ?_, rfl⟩
    rw [World.members_start hstart, List.getElem?_eq_getElem hlt, Option.map_some, if_pos htask]
  rw [hstep]
  refine ⟨by rw [World.start_eq hstart], by rw [World.start_eq hstart], hperm, fun _ ↦ hspawned, ?_,
    fun h number hnumber ↦ ?_, fun h number hnumber ↦ ?_⟩
  · rw [htasks, List.length_append]
    exact hcomplete
  · have hstarted := h number ((hknown number).2 (.inr hnumber))
    have hnodup := List.nodup_append.1 (hperm.nodup_iff.2 List.nodup_range)
    rwa [World.taskStatus_start hstart fun htask ↦ hnodup.2.2 number htask number hnumber rfl]
      at hstarted
  · by_cases htask : number ∈ tasks
    · obtain ⟨member, hmember, hpoint⟩ := hspawned htask
      rw [World.taskStatus_of_getElem? hmember, Worker.taskStatus, hpoint]
    · rw [World.taskStatus_start hstart htask]
      exact h number (((hknown number).1 hnumber).resolve_left htask)

namespace Sample

/-- The one worker of a crew is busy with a job. It is told to stop and not given any time. -/
def hastyMoves : List Move :=
  [.produce (row 0 [.whole 1]) ⟨0⟩, .start, .resume 0] ++ rounds 0 (smooth 5) ++
    [.stop, .await Span.zero, .endAwait]

/-- One of two workers is busy with a job. They are told to stop and finish in time. -/
def patientMoves : List Move :=
  [.produce (row 0 [.whole 1]) ⟨0⟩, .start, .resume 0] ++ rounds 0 (smooth 5) ++
    [.stop, .await (Span.ofSeconds 1), .resume 1] ++ rounds 0 (smooth 5) ++ [.endAwait]

def patient : Past (Sample.duties none) × World (Sample.duties none) :=
  (World.initial (Sample.duties none) 2 shared ⟨10000000000⟩).play patientMoves

end Sample

/-- A worker that finishes its job after the time is up is lost. The next start succeeds and begins
nothing, and nobody is at work. -/
theorem loses_worker_of_hastyMoves :
    ∃ past world, Run Anything
        (World.initial (Sample.duties none) 1 Sample.shared ⟨10000000000⟩) past world ∧
      (∀ pair ∈ past, pair.1.isIntact) ∧ world.isIntact ∧ world.awaited = none ∧
      world.crew.size = 0 ∧
      (world.crew.start world.taskStatus ["a"]).2.2 = .ok [] ∧
      (world.step .start).taskStatus 0 = .finished :=
  ⟨_, _, Run.play _ (Sample.hastyMoves ++ Sample.rounds 0 (Sample.smooth 5)), by decide +kernel,
    by decide +kernel, by decide +kernel, by decide +kernel, by decide +kernel, by decide +kernel⟩

theorem keeps_workers_iff_of_patientMoves :
    Sample.patient.2.crew.size = 2 ∧ (Sample.patient.2.step .start).crew.tasks = [0, 1] ∧
      ∀ number < 2, (Sample.patient.2.step .start).taskStatus number = .unfinished := by
  have h := keeps_workers_iff
    (Run.play (World.initial (Sample.duties none) 2 Sample.shared ⟨10000000000⟩) Sample.patientMoves)
    (by decide +kernel) (by decide +kernel)
  have hstart := h.2.2 [0, 1] (by decide +kernel) (by decide +kernel) (by decide +kernel)
  exact ⟨h.2.1.2 (by decide +kernel), hstart.2.1, hstart.2.2.2.2.2.2 (by decide +kernel)⟩

end TableQueue
