import TableQueue.Crew

/-!
# Workers change hands

A worker of a crew goes from the idle ones to the tasks when the crew starts and back when its task
is taken back. Only the workers of crashed tasks are not taken back.
-/

namespace TableQueue

def TaskStatus.isCrash : TaskStatus → Bool
  | crashed _ => true
  | _ => false

namespace Crew

variable {crew : Crew} {status : Nat → TaskStatus}

/-- The workers of finished tasks are idle again, unless their tasks have crashed. -/
theorem reclaim_eq (crew : Crew) (status : Nat → TaskStatus) (tasks : List Nat) :
    (crew.reclaim status tasks).1 =
      { crew with idle := crew.idle ++ tasks.filter fun task ↦ !(status task).isCrash } := by
  induction tasks generalizing crew with
  | nil => simp [reclaim]
  | cons task rest ih =>
    unfold reclaim
    split
    · next text hcrashed => simp [ih, hcrashed, TaskStatus.isCrash]
    · next hother =>
      have hkept : (status task).isCrash = false := by
        cases hstatus : status task with
        | crashed text => exact absurd hstatus (hother text)
        | unfinished | finished => rfl
      simp [ih, hkept]

/-- A start that succeeds sets every worker going that is idle or whose task is finished. -/
theorem start_of_ok {queueNames tasks} (h : (crew.start status queueNames).2.2 = .ok tasks) :
    crew.isRunning = false ∧ (∀ task ∈ crew.tasks, status task ≠ .unfinished) ∧
      tasks = crew.idle ++ crew.tasks.filter (fun task ↦ !(status task).isCrash) ∧
      (crew.start status queueNames).1 =
        { crew with isRunning := true, idle := [], tasks } := by
  unfold start at h ⊢
  split at h
  · cases h
  · next hrunning =>
    split at h
    · cases h
    · next hfinished =>
      have hrunning' : crew.isRunning = false := by simpa using hrunning
      have hfinished' : ∀ task ∈ crew.tasks, status task ≠ .unfinished := by
        simpa using hfinished
      have htasks := Except.ok.inj h
      simp only [reclaim_eq] at htasks
      refine ⟨hrunning', hfinished', htasks.symm, ?_⟩
      rw [if_neg hrunning, if_neg hfinished]
      simp only [reclaim_eq, htasks]

/-- A start that is refused changes nothing. -/
theorem start_of_error {queueNames fault}
    (h : (crew.start status queueNames).2.2 = .error fault) :
    (crew.start status queueNames).1 = crew := by
  unfold start at h ⊢
  split at h
  · next hrunning => rw [if_pos hrunning]
  · next hrunning =>
    split at h
    · next hunfinished => rw [if_neg hrunning, if_pos hunfinished]
    · cases h

end Crew

end TableQueue
