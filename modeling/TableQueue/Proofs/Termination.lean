import TableQueue.Proofs.Lifecycle
import TableQueue.Proofs.World.Stopping

/-!
# What a crew says about its workers

A start succeeds only if no worker is at work any more, and so does waiting for the crew before the
time is up: this is what a caller relies on. Both judge by the tasks that the crew keeps track of.
Every worker at work is behind such a task, or waited for, or it is one whose task was dropped when
the time for it was up. So the crew tells the truth exactly if no dropped task goes on, and always
as long as no time limit has run out.
-/

namespace TableQueue

variable {α : Type} {duties : Duties α}

/-- A task is unfinished while its worker has something to do. -/
theorem Worker.taskStatus_eq_unfinished_iff (worker : Worker α) :
    worker.taskStatus = .unfinished ↔ worker.point.isOver = false := by
  obtain ⟨name, bounds, countdown, point⟩ := worker
  cases point <;> simp [taskStatus, Point.isOver]

namespace World

variable {world world' : World duties} {forgotten : List Nat}

def isQuiet (world : World duties) : Bool :=
  world.members.all fun member ↦ member.worker.point.isOver

theorem taskStatus_eq_unfinished_iff (world : World duties) (number : Nat) :
    world.taskStatus number = .unfinished ↔
      ∃ member, world.members[number]? = some member ∧ member.worker.point.isOver = false := by
  cases hmember : world.members[number]? with
  | none => simp [taskStatus, hmember]
  | some member =>
    rw [taskStatus_of_getElem? hmember, Worker.taskStatus_eq_unfinished_iff]
    simp

/-- Tasks are over if none of them is unfinished. -/
theorem areOver_iff (world : World duties) (tasks : List Nat) :
    world.areOver tasks = true ↔ ∀ task ∈ tasks, world.taskStatus task ≠ .unfinished := by
  simp [areOver]

theorem isQuiet_iff (world : World duties) :
    world.isQuiet = true ↔ ∀ number, world.taskStatus number ≠ .unfinished := by
  simp only [isQuiet, List.all_eq_true, ne_eq, taskStatus_eq_unfinished_iff, not_exists, not_and]
  refine ⟨fun h number member hmember ↦ ?_, fun h member hmember ↦ ?_⟩
  · simpa using h member (List.mem_of_getElem? hmember)
  · obtain ⟨number, hnumber⟩ := List.getElem?_of_mem hmember
    simpa using h number member hnumber

/-! ## Workers at work are known -/

/-- Every worker at work is behind a task that the crew keeps track of, or waited for, or dropped.
While somebody waits the crew keeps track of no task. -/
structure Knows (forgotten : List Nat) (world : World duties) : Prop where
  known : ∀ number, world.taskStatus number = .unfinished →
    number ∈ world.crew.tasks ∨ number ∈ world.awaitedTasks ∨ number ∈ forgotten
  untracked : world.awaited ≠ none → world.crew.tasks = []

theorem Knows.initial (duties : Duties α) (workers : Nat) (shared : Shared) (now : Instant) :
    (World.initial duties workers shared now).Knows [] := by
  refine ⟨fun number hnumber ↦ ?_, fun hwaits ↦ absurd rfl hwaits⟩
  obtain ⟨member, hmember, hover⟩ := (taskStatus_eq_unfinished_iff _ number).1 hnumber
  obtain ⟨other, -, rfl⟩ := List.mem_map.1 (List.mem_of_getElem? hmember)
  cases hover

/-- A change that brings no worker to work keeps the workers known. -/
theorem Knows.of_eq (h : world.Knows forgotten)
    (hstatus : ∀ number, world'.taskStatus number = .unfinished →
      world.taskStatus number = .unfinished)
    (htasks : world'.crew.tasks = world.crew.tasks) (hawaited : world'.awaited = world.awaited) :
    world'.Knows forgotten where
  known number hnumber := by
    rw [htasks, awaitedTasks, hawaited]
    exact h.known number (hstatus number hnumber)
  untracked hwaits := htasks.trans (h.untracked fun hnone ↦ hwaits (hawaited.trans hnone))

/-- A member that was at work is replaced. -/
theorem taskStatus_set {number other : Nat} {member member' : Member duties} {server : Server}
    {shared : Shared} (hmember : world.members[number]? = some member)
    (hbusy : member'.worker.point.isOver = false → member.worker.point.isOver = false)
    (h : ({ world with server, shared, members := world.members.set number member' } :
      World duties).taskStatus other = .unfinished) : world.taskStatus other = .unfinished := by
  rw [taskStatus_eq_unfinished_iff] at h ⊢
  obtain ⟨found, hfound, hover⟩ := h
  rcases getElem?_set_cases hmember member' other found hfound with ⟨rfl, rfl⟩ | ⟨-, hold⟩
  · exact ⟨member, hmember, hbusy hover⟩
  · exact ⟨found, hold, hover⟩

/-- A start that succeeds keeps track of every task that it begins. -/
theorem Knows.started (h : world.Knows forgotten) (hadmits : world.admitsCall) {tasks : List Nat}
    (htasks : (world.crew.start world.taskStatus duties.settings.queueNames).2.2 = .ok tasks) :
    world.start.Knows forgotten := by
  have hnone : world.awaited = none := by
    simp only [admitsCall, Bool.and_eq_true, Option.isNone_iff_eq_none] at hadmits
    exact hadmits.1
  have hcrew : world.start.crew.tasks = tasks := by rw [start_eq htasks]
  have hwaits : world.start.awaited = none := by rw [start_eq htasks, hnone]
  refine ⟨fun number hnumber ↦ ?_, fun hsome ↦ absurd hwaits hsome⟩
  rw [hcrew]
  by_cases htask : number ∈ tasks
  · exact .inl htask
  · rw [taskStatus_start htasks htask] at hnumber
    obtain ⟨-, hfinished, -, -⟩ := Crew.start_of_ok htasks
    rcases h.known number hnumber with hold | hwaited | hdropped
    · exact absurd hnumber (hfinished number hold)
    · simp [awaitedTasks, hnone] at hwaited
    · exact .inr (.inr hdropped)

/-- Every move keeps the workers known. -/
theorem Knows.of_steps (h : world.Knows forgotten) {move : Move}
    (hsteps : Steps world move world') :
    world'.Knows (forgotten ++ world.forgets move) := by
  have hmore (hkept : world'.Knows forgotten) : world'.Knows (forgotten ++ world.forgets move) :=
    ⟨fun number hnumber ↦ (hkept.known number hnumber).imp_right (Or.imp_right
      (List.mem_append_left _)), hkept.untracked⟩
  cases hsteps with
  | refused | passed | produced | dropped | unanswered | wrote | stopped | released | waiting =>
    exact hmore (h.of_eq (fun _ hnumber ↦ hnumber) rfl rfl)
  | answered chance hmember =>
    refine hmore (h.of_eq (fun _ hnumber ↦ ?_) rfl rfl)
    exact taskStatus_set hmember (by exact id) hnumber
  | resumed hmember hready =>
    refine hmore (h.of_eq (fun _ ↦ taskStatus_set hmember fun _ ↦ ?_) rfl rfl)
    exact Member.isOver_of_ready hready
  | started hadmits htasks =>
    have hstarted := h.started hadmits htasks
    rw [start_eq htasks] at hstarted
    exact hmore hstarted
  | awaited hadmits =>
    refine hmore ⟨fun number hnumber ↦ ?_, fun _ ↦ rfl⟩
    simp only [admitsCall, Bool.and_eq_true, Option.isNone_iff_eq_none] at hadmits
    rcases h.known number hnumber with htask | hwaited | hdropped
    · exact .inr (.inl htask)
    · simp [awaitedTasks, hadmits.1] at hwaited
    · exact .inr (.inr hdropped)
  | @reclaimed deadline tasks hawaited hover =>
    refine hmore ⟨fun number hnumber ↦ ?_, fun hwaits ↦ absurd rfl hwaits⟩
    have hold : world.taskStatus number = .unfinished := hnumber
    rcases h.known number hold with htask | hwaited | hdropped
    · exact .inl htask
    · have hmem : number ∈ tasks := by simpa [awaitedTasks, hawaited] using hwaited
      exact absurd hold ((areOver_iff world tasks).1 hover number hmem)
    · exact .inr (.inr hdropped)
  | @forgotten deadline tasks hawaited hunfinished hdeadline =>
    have hforgets : world.forgets .endAwait = world.awaitedTasks := by
      simp [forgets, timesOut, hawaited, hunfinished, hdeadline]
    refine ⟨fun number hnumber ↦ ?_, fun hwaits ↦ absurd rfl hwaits⟩
    rw [hforgets, List.mem_append]
    rcases h.known number hnumber with htask | hwaited | hdropped
    · exact .inl htask
    · exact .inr (.inr (.inr hwaited))
    · exact .inr (.inr (.inl hdropped))

/-- Every worker at work is behind a task that is known throughout a run. -/
theorem knows_of_run {allowed : World duties → Move → Prop} {workers : Nat} {shared : Shared}
    {now : Instant} {past : Past duties}
    (run : Run allowed (World.initial duties workers shared now) past world) :
    world.Knows past.forgotten := by
  induction run with
  | rest => exact Knows.initial duties workers shared now
  | move _ _ ih =>
    rw [Past.forgotten_cons]
    exact ih.of_steps (World.steps _ _)

/-- Once the tasks that the crew knows of are over, nobody is at work but behind a dropped task. -/
theorem Knows.isQuiet_iff (h : world.Knows forgotten) (htasks : world.areOver world.crew.tasks)
    (hawaited : world.areOver world.awaitedTasks) :
    world.isQuiet = true ↔ world.areOver forgotten = true := by
  rw [areOver_iff] at htasks hawaited ⊢
  rw [World.isQuiet_iff]
  refine ⟨fun hquiet task _ ↦ hquiet task, fun hover number hnumber ↦ ?_⟩
  rcases h.known number hnumber with htask | hwaited | hdropped
  · exact htasks number htask hnumber
  · exact hawaited number hwaited hnumber
  · exact hover number hdropped hnumber

/-- A start that is refused leaves everything as it is and says which workers are in the way. -/
theorem start_of_error {fault : Fault}
    (h : (world.crew.start world.taskStatus duties.settings.queueNames).2.2 = .error fault) :
    world.step .start = world ∧
      (fault = .alreadyRunning ∧ world.crew.isRunning = true ∨
        fault = .notStopped ∧ world.crew.isRunning = false ∧
          ∃ task ∈ world.crew.tasks, world.taskStatus task = .unfinished) := by
  constructor
  · simp only [step, World.start, h, ite_self]
  · unfold Crew.start at h
    split at h
    · next hrunning => exact .inl ⟨(Except.error.inj h).symm, hrunning⟩
    · next hrunning =>
      split at h
      · next hunfinished =>
        exact .inr ⟨(Except.error.inj h).symm, by simpa using hrunning, by simpa using hunfinished⟩
      · cases h

/-- If the waiting ends before the time is up, the tasks are over. -/
theorem areOver_of_endAwait {deadline : Instant} {tasks : List Nat}
    (hawaited : world.awaited = some (deadline, tasks))
    (hends : (world.step .endAwait).awaited = none) (hearly : world.now < deadline) :
    world.areOver tasks = true := by
  have hlater : ¬ deadline ≤ world.now := Int.not_le.2 hearly
  by_contra hover
  rw [step, endAwait, hawaited] at hends
  simp only [hover, hlater, if_false] at hends
  rw [hawaited] at hends
  cases hends

end World

/-- What a start and the end of a wait say about the workers. A start that succeeds, and a wait that
ends before its time is up, find no worker at work exactly if no task that was dropped earlier goes
on; and as long as no time limit has run out there is no such task. A start that is refused changes
nothing, and it is refused with the right reason: the crew runs, or some worker is at work. -/
theorem tells_truth_iff_areOver_forgotten {workers : Nat} {shared : Shared} {now : Instant}
    {past : Past duties} {world : World duties}
    (run : Run Anything (World.initial duties workers shared now) past world) :
    (∀ tasks, world.admitsCall →
      (world.crew.start world.taskStatus duties.settings.queueNames).2.2 = .ok tasks →
        world.crew.isRunning = false ∧
          (world.isQuiet = true ↔ world.areOver past.forgotten = true)) ∧
    (∀ fault,
      (world.crew.start world.taskStatus duties.settings.queueNames).2.2 = .error fault →
        world.step .start = world ∧
          (fault = .alreadyRunning ∧ world.crew.isRunning = true ∨
            fault = .notStopped ∧ world.crew.isRunning = false ∧ world.isQuiet = false)) ∧
    (∀ deadline tasks, world.awaited = some (deadline, tasks) →
      (world.step .endAwait).awaited = none → world.now < deadline →
        (world.isQuiet = true ↔ world.areOver past.forgotten = true)) ∧
    ((∀ pair ∈ past, pair.1.timesOut pair.2 = false) → world.areOver past.forgotten = true) := by
  have hknows := World.knows_of_run run
  refine ⟨fun tasks hadmits hstart ↦ ?_, fun fault hstart ↦ ?_,
    fun deadline tasks hawaited hends hearly ↦ ?_, fun htimely ↦ ?_⟩
  · obtain ⟨hrunning, hfinished, -, -⟩ := Crew.start_of_ok hstart
    simp only [World.admitsCall, Bool.and_eq_true, Option.isNone_iff_eq_none] at hadmits
    refine ⟨hrunning, hknows.isQuiet_iff ((World.areOver_iff _ _).2 hfinished) ?_⟩
    simp [World.awaitedTasks, hadmits.1, World.areOver]
  · obtain ⟨hsame, hreason⟩ := World.start_of_error hstart
    refine ⟨hsame, ?_⟩
    rcases hreason with hreason | ⟨hfault, hrunning, task, -, htask⟩
    · exact .inl hreason
    · refine .inr ⟨hfault, hrunning, ?_⟩
      exact Bool.eq_false_iff.2 fun hquiet ↦ (World.isQuiet_iff world).1 hquiet task htask
  · have htasks : world.crew.tasks = [] := hknows.untracked (by simp [hawaited])
    refine hknows.isQuiet_iff (by simp [htasks, World.areOver]) ?_
    simpa [World.awaitedTasks, hawaited] using World.areOver_of_endAwait hawaited hends hearly
  · rw [past.forgotten_eq_nil_iff.2 htimely]
    rfl

namespace Sample

/-- Two workers have been told to stop and are done, and somebody still waits for them. -/
def attended : Past (Sample.duties none) × World (Sample.duties none) :=
  (World.initial (Sample.duties none) 2 shared ⟨10000000000⟩).play patientMoves.dropLast

end Sample

/-- Two workers are waited for in time. The wait ends and a start succeeds, with nobody at work. -/
theorem tells_truth_of_patientMoves :
    (Sample.attended.2.step .endAwait).awaited = none ∧ Sample.attended.2.isQuiet = true ∧
      (Sample.patient.2.crew.start Sample.patient.2.taskStatus ["a"]).2.2 = .ok [0, 1] ∧
      Sample.patient.2.isQuiet = true := by
  have hwait := tells_truth_iff_areOver_forgotten
    (Run.play (World.initial (Sample.duties none) 2 Sample.shared ⟨10000000000⟩)
      Sample.patientMoves.dropLast)
  have hstart := tells_truth_iff_areOver_forgotten
    (Run.play (World.initial (Sample.duties none) 2 Sample.shared ⟨10000000000⟩)
      Sample.patientMoves)
  have hends : (Sample.attended.2.step .endAwait).awaited = none := by decide +kernel
  have hok : (Sample.patient.2.crew.start Sample.patient.2.taskStatus ["a"]).2.2 = .ok [0, 1] := by
    decide +kernel
  exact ⟨hends,
    (hwait.2.2.1 ⟨11000000000⟩ [0, 1] (by decide +kernel) hends (by decide +kernel)).2
      (hwait.2.2.2 (by decide +kernel)),
    hok, (hstart.1 [0, 1] (by decide +kernel) hok).2.2 (hstart.2.2.2 (by decide +kernel))⟩

/-- Once the time for a busy worker is up, a start succeeds and a second wait ends at once, while
the worker is still at work. -/
theorem misses_worker_of_hastyMoves :
    (∃ past world, Run Anything
        (World.initial (Sample.duties none) 1 Sample.shared ⟨10000000000⟩) past world ∧
      world.admitsCall = true ∧
      (world.crew.start world.taskStatus ["a"]).2.2 = .ok [] ∧
      (world.step .start).taskStatus 0 = .unfinished ∧ world.isQuiet = false) ∧
    ∃ past world deadline tasks, Run Anything
        (World.initial (Sample.duties none) 1 Sample.shared ⟨10000000000⟩) past world ∧
      world.awaited = some (deadline, tasks) ∧ world.now < deadline ∧
      (world.step .endAwait).awaited = none ∧ world.isQuiet = false :=
  ⟨⟨_, _, Run.play _ Sample.hastyMoves, by decide +kernel, by decide +kernel, by decide +kernel,
      by decide +kernel⟩,
    _, _, ⟨11000000000⟩, [], Run.play _ (Sample.hastyMoves ++ [.await (Span.ofSeconds 1)]),
      by decide +kernel, by decide +kernel, by decide +kernel, by decide +kernel⟩

end TableQueue
