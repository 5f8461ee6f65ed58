import TableQueue.Proofs.World.Stopping

/-!
# Runs among other writers

A crew need not have its database to itself. Between any two moves others may add rows to the
tables, remove them, replace them or bring them back, at once or one by one, with any eligibility
time that they like. They are bound by what the database guarantees: numbers are given once, the
transactions of the workers are not theirs, and a row that a worker has deleted stays until that
worker commits. A row that others keep locked while a worker claims is one that they take out before
and put back after.
-/

namespace TableQueue

variable {α : Type} {duties : Duties α}

/-! ## What others may do -/

/-- Others have changed the tables of a store. -/
structure Store.Tolerates (store store' : Store) : Prop where
  sound : store'.Sound
  transactions : store'.transactions = store.transactions
  kept : ∀ session, ∀ entry ∈ store.queue,
    entry.number ∈ (store.transaction session).changes.deleted → entry ∈ store'.queue

namespace Store

variable {store store' : Store}

/-- Others may add a row. -/
theorem Sound.tolerates_produce (h : store.Sound) (row : Row) (visibleFrom : Instant) :
    store.Tolerates (store.produce row visibleFrom) :=
  ⟨h.produce row visibleFrom, rfl, fun _ _ hmem _ ↦ List.mem_append_left _ hmem⟩

theorem Tolerates.transaction_eq (h : store.Tolerates store') (session : Nat) :
    store'.transaction session = store.transaction session := by
  simp only [transaction, h.transactions]

end Store

/-- No session notices that others change the tables. -/
theorem Server.spares_of_tolerates {server : Server} {store : Store}
    (h : server.store.Tolerates store) (session : Nat) :
    server.Spares session { server with store } :=
  fun hlive ↦ ⟨hlive, h.transaction_eq session, h.kept session⟩

/-- A world stays sound when others change the tables. -/
theorem World.Sound.tolerate {world : World duties} (h : world.Sound) {store : Store}
    (hstore : world.server.store.Tolerates store) :
    (world.withServer { world.server with store }).Sound := by
  refine h.withServer ⟨hstore.sound, h.server.numbered, fun session hgone ↦ ?_⟩ rfl
    (Server.spares_of_tolerates hstore)
  exact (hstore.transaction_eq session).trans (h.server.quiet session hgone)

/-! ## Open runs -/

/-- A run in the course of which others may change the tables. Only the moves are recorded. -/
inductive OpenRun (start : World duties) : Past duties → World duties → Prop where
  | rest : OpenRun start [] start
  | move {past : Past duties} {world : World duties} (move : Move) :
      OpenRun start past world → OpenRun start ((world, move) :: past) (world.step move)
  | write {past : Past duties} {world : World duties} {store : Store} :
      OpenRun start past world → world.server.store.Tolerates store →
        OpenRun start past (world.withServer { world.server with store })

namespace OpenRun

variable {start world : World duties} {past : Past duties}

/-- A run in which nobody else writes. -/
theorem of_run {allowed : World duties → Move → Prop} (run : Run allowed start past world) :
    OpenRun start past world := by
  induction run with
  | rest => exact .rest
  | move _ _ ih => exact .move _ ih

/-- What holds at the start and is preserved by every move and by every write holds in the end. -/
theorem preserves {invariant : World duties → Prop} (hstart : invariant start)
    (hmove : ∀ world move, invariant world → invariant (world.step move))
    (hwrite : ∀ world store, invariant world → world.server.store.Tolerates store →
      invariant (world.withServer { world.server with store }))
    (run : OpenRun start past world) : invariant world := by
  induction run with
  | rest => exact hstart
  | move _ _ ih => exact hmove _ _ ih
  | write _ hstore ih => exact hwrite _ _ ih hstore

/-- The world stays sound throughout a run in which others take part. -/
theorem sound (hstart : start.Sound) (run : OpenRun start past world) : world.Sound :=
  run.preserves hstart (fun _ move h ↦ h.step move) fun _ _ h hstore ↦ h.tolerate hstore

end OpenRun

/-! ## One member along the way -/

namespace World

variable {world : World duties} {number : Nat} {member : Member duties}

/-- In every move a member stays where it is, gets an answer, goes on or, if it was idle, is
started. -/
theorem Sound.proceeds (h : world.Sound) (hmember : world.members[number]? = some member)
    (move : Move) : ∃ member', (world.step move).members[number]? = some member' ∧
      (world.Proceeds number member move (world.transition? number move) member' ∨
        member.worker.point = .idle ∧ world.transition? number move = none ∧
          member' = member.spawn) := by
  cases hstarts : world.starts move with
  | false =>
    obtain ⟨member', hmember', hproceeds⟩ := World.proceeds hstarts hmember
    exact ⟨member', hmember', .inl hproceeds⟩
  | true =>
    cases move with
    | start =>
      obtain ⟨hadmits, hok⟩ := Bool.and_eq_true_iff.1 hstarts
      cases htasks : (world.crew.start world.taskStatus duties.settings.queueNames).2.2 with
      | error error =>
        rw [htasks] at hok
        cases hok
      | ok tasks =>
        have hstep : world.step .start = world.start := by
          simp only [World.step, hadmits, if_true]
        rw [hstep, start_eq htasks]
        dsimp only
        rw [getElem?_foldl_spawn, hmember, Option.map_some]
        by_cases htask : number ∈ tasks
        · rw [if_pos htask]
          exact ⟨_, rfl, .inr ⟨h.idle_of_start htasks htask hmember, rfl, rfl⟩⟩
        · rw [if_neg htask]
          exact ⟨_, rfl, .inl .rested⟩
    | pass | produce | drop | answer | write | resume | stop | await | endAwait | release =>
      cases hstarts

end World

end TableQueue
